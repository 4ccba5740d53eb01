import Iconsmith.Proofs.Bitmap.Pixels
import Iconsmith.Proofs.Canvas.Memory
import Iconsmith.Proofs.Fit.Plan

/-! Images that fitting leaves as they are. One as large as the canvas comes back
unchanged, so fitting a canvas again does nothing; and without upscaling no image
grows, and one that has room on the canvas is moved and not resampled. -/
namespace Iconsmith

theorem Filter.resize_self (f : Filter) (b : Bitmap) : f.resize b b.size = b := if_pos rfl

namespace Canvas

variable {s : Settings} {image : Bitmap}

theorem offset_self (canvas : UInt32) : (canvas - canvas) / 2 = 0 := by
  rw [UInt32.sub_self]
  decide

/-- The plan of an image as large as the canvas, upscaling or not. -/
theorem of?_canvas {canvas : UInt32} (hCanvas : canvas ≠ 0) (upscale : Bool) :
    FitPlan.of? ⟨canvas, canvas⟩ canvas upscale = some ⟨.unit, ⟨canvas, canvas⟩, 0, 0⟩ := by
  rw [FitPlan.of?_of_exactScale_eq_one hCanvas hCanvas UInt32.le_rfl UInt32.le_rfl
    (FitPlan.exactScale_canvas hCanvas upscale), offset_self]

/-- An image as large as the canvas covers it. -/
theorem compose_canvas (hSize : image.size = ⟨s.canvasSize, s.canvasSize⟩) :
    compose s image ⟨.unit, ⟨s.canvasSize, s.canvasSize⟩, 0, 0⟩ = image := by
  have hWidth : image.width = s.canvasSize := congrArg Size.width hSize
  have hHeight : image.height = s.canvasSize := congrArg Size.height hSize
  have hWhole : Bitmap.ofFn s.canvasSize s.canvasSize image.pixel = image := by
    have hPixels := image.ofFn_pixel
    rwa [hWidth, hHeight] at hPixels
  rw [compose, ← hSize, s.filter.resize_self, place]
  conv_rhs => rw [← hWhole]
  refine Bitmap.ofFn_congr fun x y hx hy => ?_
  rw [if_pos ⟨Nat.zero_le _, by simpa [hWidth] using hx, Nat.zero_le _, by simpa [hHeight] using hy⟩]
  simp

/-- Nothing is needed for an image as large as the canvas but the room for
another one of its size. -/
theorem crash?_canvas (hSize : image.size = ⟨s.canvasSize, s.canvasSize⟩) :
    crash? s image ⟨.unit, ⟨s.canvasSize, s.canvasSize⟩, 0, 0⟩ = overflow? image.size := by
  rw [crash?, if_pos hSize, hSize]
  rfl

/-- An image as large as the canvas is the canvas, if its pixels can be counted in memory. -/
theorem perform_fit_canvas (s : ValidSettings) (w : World)
    (hSize : image.size = ⟨s.val.canvasSize, s.val.canvasSize⟩) :
    ((fit s.val image).perform w).1 = match overflow? image.size with
      | none => .done (image, ⟨.unit, ⟨s.val.canvasSize, s.val.canvasSize⟩, 0, 0⟩)
      | some c => .crashed c := by
  have hCanvas : s.val.canvasSize ≠ 0 := s.property.2.2.1
  have hWidth : image.width = s.val.canvasSize := congrArg Size.width hSize
  have hHeight : image.height = s.val.canvasSize := congrArg Size.height hSize
  have hPlan := of?_canvas hCanvas s.val.allowUpscale
  rw [← hSize] at hPlan
  rw [perform_fit w (hWidth ▸ hCanvas) (hHeight ▸ hCanvas) hPlan, hSize, crash?_canvas hSize,
    compose_canvas hSize, hSize]
  cases overflow? ⟨s.val.canvasSize, s.val.canvasSize⟩ <;> rfl

/-- A canvas that was made has room. -/
theorem overflow?_of_done {s : ValidSettings} {canvas : Bitmap} {plan : FitPlan} {w w' : World}
    (hDone : (fit s.val image).perform w = (.done (canvas, plan), w')) :
    canvas.size = ⟨s.val.canvasSize, s.val.canvasSize⟩ ∧ overflow? canvas.size = none := by
  obtain ⟨-, hCrash, rfl⟩ := done_of_fit hDone
  exact ⟨rfl, (Option.or_eq_none_iff.mp hCrash).2⟩

/-- An image as large as the canvas comes back unchanged with the plan that does
nothing; an image without room could not be there in the first place. So fitting
a canvas again gives the same canvas. -/
theorem fit_canvas (s : ValidSettings) :
    let kept : FitPlan := ⟨.unit, ⟨s.val.canvasSize, s.val.canvasSize⟩, 0, 0⟩
    (∀ image : Bitmap, image.size = ⟨s.val.canvasSize, s.val.canvasSize⟩ → ∀ w,
      ((fit s.val image).perform w).1 = match overflow? image.size with
        | none => .done (image, kept)
        | some c => .crashed c) ∧
    ∀ image canvas plan w w', (fit s.val image).perform w = (.done (canvas, plan), w') →
      ∀ v, ((fit s.val canvas).perform v).1 = .done (canvas, kept) := by
  intro kept
  refine ⟨fun image hSize w => perform_fit_canvas s w hSize, ?_⟩
  intro image canvas plan w w' hDone v
  obtain ⟨hSize, hRoom⟩ := overflow?_of_done hDone
  rw [perform_fit_canvas s v hSize, hRoom]

/-- A tall image on a canvas of three by three, and the canvas again. -/
theorem fit_canvas_twice :
    ∃ s : ValidSettings, s.val.canvasSize = 3 ∧ ∃ canvas plan w,
      (fit s.val (.ofFn 1 7 fun _ _ => ⟨9, 8, 7, 128⟩)).perform ⟨.empty, []⟩ =
        (.done (canvas, plan), w) ∧
      ((fit s.val canvas).perform w).1 = .done (canvas, ⟨.unit, ⟨3, 3⟩, 0, 0⟩) ∧
      ((fit s.val (.ofFn 3 3 fun _ _ => ⟨9, 8, 7, 0⟩)).perform w).1 =
        .done (.ofFn 3 3 fun _ _ => ⟨9, 8, 7, 0⟩, ⟨.unit, ⟨3, 3⟩, 0, 0⟩) := by
  let s : ValidSettings := ⟨{ Settings.default with canvasSize := 3 }, by decide⟩
  let image : Bitmap := .ofFn 1 7 fun _ _ => ⟨9, 8, 7, 128⟩
  obtain ⟨plan, hPlan, hX, hY⟩ := exists_plan s image
  have hRoom : crash? s.val image plan = none :=
    crash?_of_capacity (bytes_newSize_le hX hY) (by decide)
  have hDone := perform_fit ⟨.empty, []⟩ (by decide) (by decide) hPlan
  rw [hRoom] at hDone
  obtain ⟨hKept, hAgain⟩ := fit_canvas s
  exact ⟨s, rfl, _, _, _, hDone, hAgain _ _ _ _ _ hDone _, hKept (.ofFn 3 3 _) rfl _⟩

/-- A canvas whose plan keeps the sides of the image shows each pixel of it. -/
theorem pixel_of_kept {s : ValidSettings} {canvas : Bitmap} {plan : FitPlan} {w w' : World}
    (hDone : (fit s.val image).perform w = (.done (canvas, plan), w'))
    (hKept : plan.newSize = image.size) {x y : Nat} (hx : x < image.width.toNat)
    (hy : y < image.height.toNat) :
    (plan.offsetX.toNat + x, plan.offsetY.toNat + y) ∈ canvas.places ∧
      canvas.pixel (plan.offsetX.toNat + x) (plan.offsetY.toNat + y) = image.pixel x y := by
  have hShown := pixel_of_fit hDone (by rw [hKept]; exact hx) (by rw [hKept]; exact hy)
  rwa [hKept, s.val.filter.resize_self] at hShown

/-- Without upscaling nothing is enlarged. An image with room on the canvas is
not scaled at all, and wherever it is put on a canvas, with whichever filter,
the canvas shows it pixel for pixel. -/
theorem fit_without_upscale {size : Size} {canvas : UInt32} (hWidth : size.width ≠ 0)
    (hHeight : size.height ≠ 0) (hCanvas : canvas ≠ 0) :
    ∃ plan x, FitPlan.of? size canvas false = some plan ∧ plan.scale = .finite x ∧ x.value ≤ 1 ∧
      plan.newSize.width ≤ size.width ∧ plan.newSize.height ≤ size.height ∧
      (size.width ≤ canvas → size.height ≤ canvas →
        plan.scale = .unit ∧ plan.newSize = size ∧
        ∀ (s : ValidSettings) (image made : Bitmap) (plan' : FitPlan) (w w' : World),
          s.val.canvasSize = canvas → s.val.allowUpscale = false → image.size = size →
          (fit s.val image).perform w = (.done (made, plan'), w') →
          plan' = plan ∧ ∀ x y, x < image.width.toNat → y < image.height.toNat →
            (plan.offsetX.toNat + x, plan.offsetY.toNat + y) ∈ made.places ∧
            made.pixel (plan.offsetX.toNat + x) (plan.offsetY.toNat + y) = image.pixel x y) := by
  obtain ⟨x, hScale, hRounds⟩ := FitPlan.rounds_fittingScale canvas false hWidth hHeight
  have hOne : x.value ≤ 1 := hRounds.mono FitPlan.rounds_one (FitPlan.exactScale_le_one size canvas)
  have hPlan := FitPlan.of?_eq_some size false hCanvas
  dsimp only at hPlan
  rw [hScale] at hPlan
  refine ⟨_, x, hPlan, rfl, hOne, FitPlan.clampSide_le hCanvas hWidth (FitPlan.apply_le hOne _),
    FitPlan.clampSide_le hCanvas hHeight (FitPlan.apply_le hOne _), fun hWidthLe hHeightLe => ?_⟩
  have hExact := FitPlan.exactScale_of_le hWidth hHeight hWidthLe hHeightLe
  have hKept := FitPlan.of?_of_exactScale_eq_one hWidth hHeight hWidthLe hHeightLe hExact
  rw [Option.some.inj (hPlan.symm.trans hKept)]
  refine ⟨rfl, rfl, ?_⟩
  rintro s image made plan' w w' rfl hUpscale rfl hDone
  obtain ⟨hPlan', -, -⟩ := done_of_fit hDone
  rw [hUpscale] at hPlan'
  obtain rfl := Option.some.inj (hPlan'.symm.trans hKept)
  exact ⟨rfl, fun x y hx hy => pixel_of_kept hDone rfl hx hy⟩

/-- One pixel in the middle of three by three. -/
theorem fit_without_upscale_onePixel :
    ∃ s : ValidSettings, s.val.filter = .lanczos3 ∧ ∃ made w,
      (fit s.val (.ofFn 1 1 fun _ _ => ⟨9, 8, 7, 128⟩)).perform ⟨.empty, []⟩ =
        (.done (made, ⟨.unit, ⟨1, 1⟩, 1, 1⟩), w) ∧ made.pixel 1 1 = ⟨9, 8, 7, 128⟩ := by
  let s : ValidSettings :=
    ⟨{ Settings.default with canvasSize := 3, allowUpscale := false }, by decide⟩
  let image : Bitmap := .ofFn 1 1 fun _ _ => ⟨9, 8, 7, 128⟩
  have hPlan : FitPlan.of? image.size s.val.canvasSize s.val.allowUpscale =
      some ⟨.unit, ⟨1, 1⟩, 1, 1⟩ := by decide
  have hRoom : crash? s.val image ⟨.unit, ⟨1, 1⟩, 1, 1⟩ = none := by decide
  have hDone := perform_fit ⟨.empty, []⟩ (by decide) (by decide) hPlan
  rw [hRoom] at hDone
  obtain ⟨plan, x, -, -, -, -, -, hSmall⟩ :=
    @fit_without_upscale image.size 3 (by decide) (by decide) (by decide)
  obtain ⟨-, -, hShown⟩ := hSmall (by decide) (by decide)
  obtain ⟨rfl, hPixel⟩ := hShown s image _ _ _ _ rfl rfl rfl hDone
  exact ⟨s, rfl, _, _, hDone, (hPixel 0 0 (by decide) (by decide)).2⟩

end Canvas
end Iconsmith
