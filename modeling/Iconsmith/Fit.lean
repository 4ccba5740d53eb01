import Iconsmith.Binary64
import Iconsmith.Size

/-!
How an image is fitted into a square canvas: one scale for both sides, sides rounded down, centred.
-/

namespace Iconsmith

/-- A scale factor. It is unbounded when both sides of the image are zero. -/
inductive Scale where
  | finite (factor : Binary64)
  | unbounded
deriving DecidableEq, Repr

namespace Scale

/-- The scale that makes a side as long as the canvas. -/
def ofSide (side canvas : UInt32) : Scale :=
  if side = 0 then .unbounded else .finite (.ofRatio canvas.toNat side.toNat)

def lesser : Scale → Scale → Scale
  | .unbounded, s => s
  | s, .unbounded => s
  | .finite x, .finite y => .finite (x.lesser y)

/-- The scale of an image that keeps its size. -/
def unit : Scale := .finite .one

/-- The whole part of a scaled side. Zero times an unbounded scale is no number and counts as
zero. -/
def apply (s : Scale) (side : UInt32) : Nat :=
  match s with
  | .finite x => ((Binary64.ofNat side.toNat).mul x).floor
  | .unbounded => 0

/-- The 64-bit pattern of the factor. -/
def toBits : Scale → Nat
  | .finite x => x.toBits
  | .unbounded => 0x7FF0000000000000

end Scale

/-- Where and how large an image is drawn on a canvas. -/
structure FitPlan where
  scale : Scale
  newSize : Size
  offsetX : UInt32
  offsetY : UInt32
deriving DecidableEq, Repr

namespace FitPlan

/-- Bring a scaled side between one pixel and the canvas. -/
def clampSide (n : Nat) (canvas : UInt32) : UInt32 := (max 1 (min n canvas.toNat)).toUInt32

/-- The scale at which an image just fits; without `upscale` it is at most one. -/
def fittingScale (size : Size) (canvas : UInt32) (upscale : Bool) : Scale :=
  let s := (Scale.ofSide size.width canvas).lesser (Scale.ofSide size.height canvas)
  if upscale then s else s.lesser .unit

/-- The plan that fits an image into a canvas. No side is shorter than one pixel, and when the
margins differ the right or lower one is larger by one. A canvas without pixels has no plan. -/
def of? (size : Size) (canvas : UInt32) (upscale : Bool) : Option FitPlan :=
  if canvas = 0 then none
  else
    let scale := fittingScale size canvas upscale
    let width := clampSide (scale.apply size.width) canvas
    let height := clampSide (scale.apply size.height) canvas
    some ⟨scale, ⟨width, height⟩, (canvas - width) / 2, (canvas - height) / 2⟩

end FitPlan
end Iconsmith
