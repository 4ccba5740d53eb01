import Iconsmith.Canvas
import Iconsmith.Proofs.Fit.Plan

/-! How fitting an image into the canvas ends, and what the canvas holds. The
planned area shows the resampled image pixel for pixel, everything around it is
clear, and the only thing in the way of a canvas is its memory. -/
namespace Iconsmith

theorem Filter.size_resize (f : Filter) (b : Bitmap) (size : Size) :
    (f.resize b size).size = size := by
  unfold Filter.resize
  split_ifs with h
  · exact h
  · cases f <;> rfl

/-- The places of the pixels of an image, column first. -/
def Bitmap.places (b : Bitmap) : Set (Nat × Nat) :=
  {p | p.1 < b.width.toNat ∧ p.2 < b.height.toNat}

namespace FitPlan

/-- Where a pixel of the resampled image comes to stand. -/
def shift (plan : FitPlan) (p : Nat × Nat) : Nat × Nat :=
  (plan.offsetX.toNat + p.1, plan.offsetY.toNat + p.2)

/-- The places of the canvas that the resampled image covers. -/
def covered (plan : FitPlan) : Set (Nat × Nat) :=
  {p | (plan.offsetX.toNat ≤ p.1 ∧ p.1 < plan.offsetX.toNat + plan.newSize.width.toNat) ∧
    plan.offsetY.toNat ≤ p.2 ∧ p.2 < plan.offsetY.toNat + plan.newSize.height.toNat}

/-- A plan moves an image of its size without overlap onto what it covers. -/
theorem bijOn_shift {plan : FitPlan} {b : Bitmap} (h : b.size = plan.newSize) :
    Set.BijOn plan.shift b.places plan.covered := by
  have hWidth : b.width = plan.newSize.width := congrArg Size.width h
  have hHeight : b.height = plan.newSize.height := congrArg Size.height h
  refine ⟨?_, ?_, ?_⟩
  · rintro ⟨x, y⟩ ⟨hx, hy⟩
    rw [hWidth] at hx
    rw [hHeight] at hy
    exact ⟨⟨Nat.le_add_right _ _, Nat.add_lt_add_left hx _⟩, Nat.le_add_right _ _,
      Nat.add_lt_add_left hy _⟩
  · rintro ⟨x, y⟩ _ ⟨x', y'⟩ _ hSame
    simpa [shift] using hSame
  · rintro ⟨x, y⟩ ⟨⟨hLeft, hRight⟩, hTop, hBottom⟩
    refine ⟨(x - plan.offsetX.toNat, y - plan.offsetY.toNat), ⟨?_, ?_⟩, ?_⟩
    · rw [hWidth]
      exact Nat.sub_lt_left_of_lt_add hLeft hRight
    · rw [hHeight]
      exact Nat.sub_lt_left_of_lt_add hTop hBottom
    · exact Prod.ext (Nat.add_sub_cancel' hLeft) (Nat.add_sub_cancel' hTop)

end FitPlan

namespace Canvas

open FitPlan (Centred)

/-- What a canvas holds that follows a plan. -/
structure Composition (s : Settings) (image canvas : Bitmap) (plan : FitPlan) : Prop where
  planned : FitPlan.of? image.size s.canvasSize s.allowUpscale = some plan
  size_eq : canvas.size = ⟨s.canvasSize, s.canvasSize⟩
  covered_subset : plan.covered ⊆ canvas.places
  /-- Each pixel of the resampled image has one place of its own. -/
  bijOn : Set.BijOn plan.shift (s.filter.resize image plan.newSize).places plan.covered
  pixel_covered : ∀ p ∈ plan.covered, canvas.pixel p.1 p.2 =
    (s.filter.resize image plan.newSize).pixel (p.1 - plan.offsetX.toNat)
      (p.2 - plan.offsetY.toNat)
  pixel_clear : ∀ p ∈ canvas.places \ plan.covered, canvas.pixel p.1 p.2 = ⟨0, 0, 0, 0⟩

variable {s : Settings} {image : Bitmap} {plan : FitPlan}

/-- Outside of the planned area a composition is clear, inside it is the
resampled image. -/
theorem pixel_compose (s : Settings) (image : Bitmap) (plan : FitPlan) {x y : Nat}
    (hx : x < s.canvasSize.toNat) (hy : y < s.canvasSize.toNat) :
    (compose s image plan).pixel x y =
      if plan.offsetX.toNat ≤ x ∧ x < plan.offsetX.toNat + plan.newSize.width.toNat ∧
          plan.offsetY.toNat ≤ y ∧ y < plan.offsetY.toNat + plan.newSize.height.toNat then
        (s.filter.resize image plan.newSize).pixel (x - plan.offsetX.toNat)
          (y - plan.offsetY.toNat)
      else .clear := by
  have hResized := s.filter.size_resize image plan.newSize
  rw [← congrArg Size.width hResized, ← congrArg Size.height hResized]
  exact Bitmap.pixel_ofFn hx hy

/-- The plan of an image for valid settings. -/
theorem exists_plan (s : ValidSettings) (image : Bitmap) :
    ∃ plan, FitPlan.of? image.size s.val.canvasSize s.val.allowUpscale = some plan ∧
      Centred s.val.canvasSize plan.newSize.width plan.offsetX ∧
      Centred s.val.canvasSize plan.newSize.height plan.offsetY := by
  have hCanvas : s.val.canvasSize ≠ 0 := s.property.2.2.1
  exact ⟨_, FitPlan.of?_eq_some image.size s.val.allowUpscale hCanvas,
    FitPlan.centred_clampSide _ hCanvas, FitPlan.centred_clampSide _ hCanvas⟩

/-- A planned image stands in the middle of the canvas on both axes. -/
theorem centred_of_plan {s : ValidSettings}
    (hPlan : FitPlan.of? image.size s.val.canvasSize s.val.allowUpscale = some plan) :
    Centred s.val.canvasSize plan.newSize.width plan.offsetX ∧
      Centred s.val.canvasSize plan.newSize.height plan.offsetY := by
  obtain ⟨_, hPlan', hCentred⟩ := exists_plan s image
  obtain rfl := Option.some.inj (hPlan.symm.trans hPlan')
  exact hCentred

/-- A canvas that is put together after its plan holds what it should. -/
theorem composition_compose {s : ValidSettings}
    (hPlan : FitPlan.of? image.size s.val.canvasSize s.val.allowUpscale = some plan) :
    Composition s.val image (compose s.val image plan) plan := by
  obtain ⟨hX, hY⟩ := centred_of_plan hPlan
  have hInside : plan.covered ⊆ (compose s.val image plan).places := by
    rintro ⟨x, y⟩ ⟨⟨-, hRight⟩, -, hBottom⟩
    exact ⟨hRight.trans_le hX.end_le, hBottom.trans_le hY.end_le⟩
  have hResized := s.val.filter.size_resize image plan.newSize
  refine ⟨hPlan, rfl, hInside, FitPlan.bijOn_shift hResized, ?_, ?_⟩
  · rintro ⟨x, y⟩ hCovered
    obtain ⟨hx, hy⟩ := hInside hCovered
    obtain ⟨⟨hLeft, hRight⟩, hTop, hBottom⟩ := hCovered
    exact (pixel_compose _ _ _ hx hy).trans (if_pos ⟨hLeft, hRight, hTop, hBottom⟩)
  · rintro ⟨x, y⟩ ⟨⟨hx, hy⟩, hOutside⟩
    refine (pixel_compose _ _ _ hx hy).trans (if_neg ?_)
    rintro ⟨hLeft, hRight, hTop, hBottom⟩
    exact hOutside ⟨⟨hLeft, hRight⟩, hTop, hBottom⟩

theorem perform_fit_empty (w : World) (h : image.width = 0 ∨ image.height = 0) :
    (fit s image).perform w = (.failed (.emptyImage image.size.text), w) := by
  simp only [fit, if_pos h]
  rfl

/-- Everything that happens to an image with pixels once it has a plan. -/
theorem perform_fit (w : World) (hWidth : image.width ≠ 0) (hHeight : image.height ≠ 0)
    (hPlan : FitPlan.of? image.size s.canvasSize s.allowUpscale = some plan) :
    (fit s image).perform w =
      (match crash? s image plan with
        | some c => .crashed c
        | none => .done (compose s image plan, plan),
        { w with log := w.log ++ [⟨.info, .padding, "原始尺寸: " ++ image.size.text⟩] ++
          [⟨.info, .padding, "缩放后尺寸: " ++ plan.newSize.text⟩] }) := by
  have hNonempty : ¬(image.width = 0 ∨ image.height = 0) := by
    rintro (h | h)
    · exact hWidth h
    · exact hHeight h
  simp only [fit, if_neg hNonempty, hPlan, Action.perform_bind, Action.perform_report]
  cases crash? s image plan <;> rfl

/-- An image that gets a canvas has pixels. -/
theorem sides_of_fit {canvas : Bitmap} {w w' : World}
    (hDone : (fit s image).perform w = (.done (canvas, plan), w')) :
    image.width ≠ 0 ∧ image.height ≠ 0 := by
  refine not_or.mp fun hEmpty => ?_
  simp [perform_fit_empty w hEmpty] at hDone

/-- A canvas that is made has room and is put together after the plan of its
image. -/
theorem done_of_fit {s : ValidSettings} {canvas : Bitmap} {w w' : World}
    (hDone : (fit s.val image).perform w = (.done (canvas, plan), w')) :
    FitPlan.of? image.size s.val.canvasSize s.val.allowUpscale = some plan ∧
      crash? s.val image plan = none ∧ canvas = compose s.val image plan := by
  obtain ⟨hWidth, hHeight⟩ := sides_of_fit hDone
  obtain ⟨planned, hPlan, -⟩ := exists_plan s image
  rw [perform_fit w hWidth hHeight hPlan] at hDone
  cases hCrash : crash? s.val image planned with
  | some c => simp [hCrash] at hDone
  | none =>
      simp only [hCrash, Prod.mk.injEq, Ending.done.injEq] at hDone
      obtain ⟨⟨rfl, rfl⟩, -⟩ := hDone
      exact ⟨hPlan, hCrash, rfl⟩

/-- The pixels of the resampled image, each at its place on a canvas that is made. -/
theorem pixel_of_fit {s : ValidSettings} {canvas : Bitmap} {w w' : World}
    (hDone : (fit s.val image).perform w = (.done (canvas, plan), w')) {x y : Nat}
    (hx : x < plan.newSize.width.toNat) (hy : y < plan.newSize.height.toNat) :
    (plan.offsetX.toNat + x, plan.offsetY.toNat + y) ∈ canvas.places ∧
      canvas.pixel (plan.offsetX.toNat + x) (plan.offsetY.toNat + y) =
        (s.val.filter.resize image plan.newSize).pixel x y := by
  obtain ⟨hPlan, -, rfl⟩ := done_of_fit hDone
  have hComposition := composition_compose hPlan
  have hCovered : (plan.offsetX.toNat + x, plan.offsetY.toNat + y) ∈ plan.covered :=
    ⟨⟨Nat.le_add_right _ _, Nat.add_lt_add_left hx _⟩, Nat.le_add_right _ _,
      Nat.add_lt_add_left hy _⟩
  refine ⟨hComposition.covered_subset hCovered, ?_⟩
  simpa using hComposition.pixel_covered _ hCovered

/-- Fitting makes exactly the composition that the plan of the image describes,
and refuses an image without pixels. -/
theorem fit_exact (s : ValidSettings) (image : Bitmap) (w : World) :
    (image.width = 0 ∨ image.height = 0 →
      ∃ f, (fit s.val image).perform w = (.failed f, w) ∧ f.kind = .invalidFormat) ∧
    ∀ canvas plan w', (fit s.val image).perform w = (.done (canvas, plan), w') →
      Composition s.val image canvas plan := by
  refine ⟨fun h => ⟨_, perform_fit_empty w h, rfl⟩, ?_⟩
  intro canvas plan w' hDone
  obtain ⟨hPlan, -, rfl⟩ := done_of_fit hDone
  exact composition_compose hPlan

/-- One half-transparent pixel in the middle of three by three, and no pixel. -/
theorem fit_exact_onePixel :
    ∃ s : ValidSettings, s.val.canvasSize = 3 ∧
      (∃ canvas plan w, (fit s.val (.ofFn 1 1 fun _ _ => ⟨9, 8, 7, 128⟩)).perform ⟨.empty, []⟩ =
        (.done (canvas, plan), w) ∧
        Composition s.val (.ofFn 1 1 fun _ _ => ⟨9, 8, 7, 128⟩) canvas plan) ∧
      ∃ f, (fit s.val (.ofFn 0 1 fun _ _ => .clear)).perform ⟨.empty, []⟩ =
        (.failed f, ⟨.empty, []⟩) ∧ f.kind = .invalidFormat := by
  let s : ValidSettings :=
    ⟨{ Settings.default with canvasSize := 3, allowUpscale := false }, by decide⟩
  let plan : FitPlan := ⟨.finite .one, ⟨1, 1⟩, 1, 1⟩
  have hPlan : FitPlan.of? (Bitmap.ofFn 1 1 fun _ _ => ⟨9, 8, 7, 128⟩).size s.val.canvasSize
      s.val.allowUpscale = some plan := by decide
  have hRoom : crash? s.val (.ofFn 1 1 fun _ _ => ⟨9, 8, 7, 128⟩) plan = none := by decide
  have hDone := perform_fit ⟨.empty, []⟩ (by decide) (by decide) hPlan
  rw [hRoom] at hDone
  exact ⟨s, rfl, ⟨_, _, _, hDone, (fit_exact s _ _).2 _ _ _ hDone⟩,
    (fit_exact s _ _).1 (Or.inl rfl)⟩

end Canvas
end Iconsmith
