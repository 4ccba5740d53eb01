import Iconsmith.Fit
import Iconsmith.Resample
import Iconsmith.Settings
import Iconsmith.World

/-!
Fitting an image into the square canvas: it is resampled as planned and its pixels are put on a
clear background without mixing.
-/

namespace Iconsmith

namespace Failure

def emptyImage (size : String) : Failure := ⟨.invalidFormat, "图片尺寸为 0：" ++ size⟩

end Failure

namespace Canvas

/-- Place an image on a clear square. Pixels beyond the square are lost. -/
def place (side : UInt32) (image : Bitmap) (left top : UInt32) : Bitmap :=
  .ofFn side side fun x y =>
    if left.toNat ≤ x ∧ x < left.toNat + image.width.toNat ∧
        top.toNat ≤ y ∧ y < top.toNat + image.height.toNat then
      image.pixel (x - left.toNat) (y - top.toNat)
    else .clear

def compose (s : Settings) (image : Bitmap) (plan : FitPlan) : Bitmap :=
  place s.canvasSize (s.filter.resize image plan.newSize) plan.offsetX plan.offsetY

/-- Why a new image of some size has no room. Its length must be a number of 64 bits, and one piece
of memory has fewer than `2 ^ 63` bytes. -/
def overflow? (size : Size) : Option Crash :=
  if UInt64.size ≤ size.bytes then some .bufferLength
  else if UInt64.size / 2 ≤ size.bytes then some .capacity
  else none

/-- What stops a plan. Room is needed for the resampled image, unless the image has the planned
size already, and then for the canvas. -/
def crash? (s : Settings) (image : Bitmap) (plan : FitPlan) : Option Crash :=
  (if image.size = plan.newSize then none else overflow? plan.newSize).or
    (overflow? ⟨s.canvasSize, s.canvasSize⟩)

/-- Fit an image into the canvas of the settings. Its size before and after is reported. -/
def fit (s : Settings) (image : Bitmap) : Action Failure (Bitmap × FitPlan) := do
  if image.width = 0 ∨ image.height = 0 then throw (.emptyImage image.size.text)
  Action.report .info .padding ("原始尺寸: " ++ image.size.text)
  match FitPlan.of? image.size s.canvasSize s.allowUpscale with
  | none => Action.crash .emptyRange
  | some plan =>
    Action.report .info .padding ("缩放后尺寸: " ++ plan.newSize.text)
    match crash? s image plan with
    | some c => Action.crash c
    | none => return (compose s image plan, plan)

end Canvas
end Iconsmith
