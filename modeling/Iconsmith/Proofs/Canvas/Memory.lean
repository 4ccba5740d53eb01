import Iconsmith.Proofs.Canvas.Composition

/-! The memory that fitting needs. Valid settings bound nothing from above, and
the canvas is the largest of the new images, so its side alone decides whether
there is a canvas or a crash. -/
namespace Iconsmith.Canvas

open FitPlan (Centred)

theorem overflow?_eq_none_iff (size : Size) : overflow? size = none ↔ size.bytes < 2 ^ 63 := by
  simp only [overflow?, UInt64.size]
  split_ifs <;> simp <;> omega

theorem overflow?_of_lt {size : Size} (hLow : 2 ^ 63 ≤ size.bytes) (hHigh : size.bytes < 2 ^ 64) :
    overflow? size = some .capacity := by
  simp only [overflow?, UInt64.size]
  rw [if_neg (by omega), if_pos (by omega)]

/-- The greatest side of a square image that has room. -/
theorem square_bytes_lt_capacity_iff (side : UInt32) :
    Size.bytes ⟨side, side⟩ < 2 ^ 63 ↔ side.toNat ≤ 1518500249 := by
  simp only [Size.bytes, Size.area]
  constructor
  · intro h
    by_contra hGreater
    have hSquare := Nat.mul_le_mul (by omega : 1518500250 ≤ side.toNat)
      (by omega : 1518500250 ≤ side.toNat)
    omega
  · intro h
    have hSquare := Nat.mul_le_mul h h
    omega

/-- The length of a square image is a number of 64 bits up to sides of 31 bits. -/
theorem square_bytes_lt_iff (side : UInt32) :
    Size.bytes ⟨side, side⟩ < 2 ^ 64 ↔ side.toNat < 2 ^ 31 := by
  simp only [Size.bytes, Size.area]
  constructor
  · intro h
    by_contra hGreater
    have hSquare := Nat.mul_le_mul (by omega : 2 ^ 31 ≤ side.toNat)
      (by omega : 2 ^ 31 ≤ side.toNat)
    omega
  · intro h
    have hSquare := Nat.mul_le_mul (by omega : side.toNat ≤ 2 ^ 31 - 1)
      (by omega : side.toNat ≤ 2 ^ 31 - 1)
    omega

/-- The resampled image never needs more memory than the canvas. -/
theorem bytes_newSize_le {canvas : UInt32} {plan : FitPlan}
    (hX : Centred canvas plan.newSize.width plan.offsetX)
    (hY : Centred canvas plan.newSize.height plan.offsetY) :
    plan.newSize.bytes ≤ Size.bytes ⟨canvas, canvas⟩ :=
  Nat.mul_le_mul_left 4 (Nat.mul_le_mul hX.le_canvas hY.le_canvas)

section Crash

variable {s : Settings} {image : Bitmap} {plan : FitPlan}
  (hLe : plan.newSize.bytes ≤ Size.bytes ⟨s.canvasSize, s.canvasSize⟩)

include hLe

/-- Both images have room if the canvas has. -/
theorem crash?_of_capacity (h : Size.bytes ⟨s.canvasSize, s.canvasSize⟩ < 2 ^ 63) :
    crash? s image plan = none := by
  have hCanvas := (overflow?_eq_none_iff _).mpr h
  have hResized := (overflow?_eq_none_iff _).mpr (hLe.trans_lt h)
  simp [crash?, hCanvas, hResized]

/-- A canvas with a length of 64 bits but without room runs out of memory. -/
theorem crash?_of_length (hLow : 2 ^ 63 ≤ Size.bytes ⟨s.canvasSize, s.canvasSize⟩)
    (hHigh : Size.bytes ⟨s.canvasSize, s.canvasSize⟩ < 2 ^ 64) :
    crash? s image plan = some .capacity := by
  have hCanvas := overflow?_of_lt hLow hHigh
  unfold crash?
  rw [hCanvas]
  split_ifs
  · rfl
  · by_cases hRoom : plan.newSize.bytes < 2 ^ 63
    · rw [(overflow?_eq_none_iff _).mpr hRoom]
      rfl
    · rw [overflow?_of_lt (by omega) (by omega)]
      rfl

end Crash

/-- A canvas whose length is no number of 64 bits is never made. -/
theorem exists_crash (s : Settings) (image : Bitmap) (plan : FitPlan)
    (h : 2 ^ 64 ≤ Size.bytes ⟨s.canvasSize, s.canvasSize⟩) :
    ∃ c, crash? s image plan = some c ∧ (c = .bufferLength ∨ c = .capacity) := by
  have hCanvas : overflow? ⟨s.canvasSize, s.canvasSize⟩ = some .bufferLength := if_pos h
  unfold crash?
  rw [hCanvas]
  split_ifs
  · exact ⟨_, rfl, Or.inl rfl⟩
  · unfold overflow?
    split_ifs
    · exact ⟨_, rfl, Or.inl rfl⟩
    · exact ⟨_, rfl, Or.inr rfl⟩
    · exact ⟨_, rfl, Or.inl rfl⟩

/-- An image with pixels gets its canvas if one piece of memory holds it. -/
theorem exists_fit (s : ValidSettings) (image : Bitmap) (w : World) (hWidth : image.width ≠ 0)
    (hHeight : image.height ≠ 0) (hRoom : s.val.canvasSize.toNat ≤ 1518500249) :
    ∃ canvas plan w', (fit s.val image).perform w = (.done (canvas, plan), w') := by
  obtain ⟨plan, hPlan, hX, hY⟩ := exists_plan s image
  have hCrash : crash? s.val image plan = none :=
    crash?_of_capacity (bytes_newSize_le hX hY) ((square_bytes_lt_capacity_iff _).mpr hRoom)
  have hDone := perform_fit w hWidth hHeight hPlan
  rw [hCrash] at hDone
  exact ⟨_, _, _, hDone⟩

/-- With valid settings every image with pixels has a plan within the canvas,
and no failure follows. Whether the canvas is made depends on its side alone:
up to 1518500249 it is, from there on no piece of memory is long enough, and
from `2 ^ 31` on its length is not even a number of 64 bits. -/
theorem fit_ending (s : ValidSettings) (image : Bitmap) (w : World)
    (hWidth : image.width ≠ 0) (hHeight : image.height ≠ 0) :
    ∃ plan, FitPlan.of? image.size s.val.canvasSize s.val.allowUpscale = some plan ∧
      Centred s.val.canvasSize plan.newSize.width plan.offsetX ∧
      Centred s.val.canvasSize plan.newSize.height plan.offsetY ∧
      plan.newSize.bytes ≤ Size.bytes ⟨s.val.canvasSize, s.val.canvasSize⟩ ∧
      (Size.bytes ⟨s.val.canvasSize, s.val.canvasSize⟩ < 2 ^ 64 ↔
        s.val.canvasSize.toNat < 2 ^ 31) ∧
      if s.val.canvasSize.toNat ≤ 1518500249 then
        ((fit s.val image).perform w).1 = .done (compose s.val image plan, plan)
      else if s.val.canvasSize.toNat < 2 ^ 31 then
        ((fit s.val image).perform w).1 = .crashed .capacity
      else ∃ c, ((fit s.val image).perform w).1 = .crashed c ∧
        (c = .bufferLength ∨ c = .capacity) := by
  obtain ⟨plan, hPlan, hX, hY⟩ := exists_plan s image
  have hLe := bytes_newSize_le hX hY
  refine ⟨plan, hPlan, hX, hY, hLe, square_bytes_lt_iff _, ?_⟩
  rw [perform_fit w hWidth hHeight hPlan]
  split_ifs with hRoom hLength
  · rw [crash?_of_capacity hLe ((square_bytes_lt_capacity_iff _).mpr hRoom)]
  · have hLow := mt (square_bytes_lt_capacity_iff _).mp hRoom
    rw [crash?_of_length hLe (not_lt.mp hLow) ((square_bytes_lt_iff _).mpr hLength)]
  · have hHigh := mt (square_bytes_lt_iff _).mp hLength
    obtain ⟨c, hCrash, hReason⟩ := exists_crash s.val image plan (not_lt.mp hHigh)
    exact ⟨c, by rw [hCrash], hReason⟩

/-- The least canvas that no piece of memory can hold, for a single pixel that
is not even enlarged. -/
theorem fit_ending_leastCrash :
    ∃ s : ValidSettings, s.val.canvasSize = 1518500250 ∧ s.val.allowUpscale = false ∧
      ((fit s.val (.ofFn 1 1 fun _ _ => .clear)).perform ⟨.empty, []⟩).1 = .crashed .capacity := by
  let s : ValidSettings :=
    ⟨{ Settings.default with canvasSize := 1518500250, allowUpscale := false }, by decide⟩
  obtain ⟨plan, -, -, -, -, -, hEnding⟩ :=
    fit_ending s (.ofFn 1 1 fun _ _ => .clear) ⟨.empty, []⟩ (by decide) (by decide)
  rw [if_neg (by decide), if_pos (by decide)] at hEnding
  exact ⟨s, rfl, rfl, hEnding⟩

/-- A canvas of side `2 ^ 31`, on which nothing is enlarged. -/
def longCanvas : ValidSettings :=
  ⟨{ Settings.default with canvasSize := 2147483648, allowUpscale := false }, by decide⟩

/-- So valid settings do not rule out a crash. A canvas of side `2 ^ 31` would have `2 ^ 64` bytes:
for a single pixel already the length is no number of 64 bits, before any memory is asked for. Even
if memory never ran out, not every image would get its canvas. -/
theorem fit_not_always_done :
    ((fit longCanvas.val (.ofFn 1 1 fun _ _ => .clear)).perform ⟨.empty, []⟩).1 =
        .crashed .bufferLength ∧
      ¬∀ (s : ValidSettings) (image : Bitmap) (w : World), image.width ≠ 0 → image.height ≠ 0 →
        ((fit s.val image).perform w).1 = .crashed .capacity ∨
          ∃ canvas plan, ((fit s.val image).perform w).1 = .done (canvas, plan) := by
  let image : Bitmap := .ofFn 1 1 fun _ _ => .clear
  have hPlan : FitPlan.of? image.size 2147483648 false =
      some ⟨.unit, ⟨1, 1⟩, 1073741823, 1073741823⟩ := by
    decide +kernel
  have hLength : overflow? ⟨2147483648, 2147483648⟩ = some .bufferLength := by decide
  -- The image has the planned size already, so the canvas is the first to need room.
  have hCrash : crash? longCanvas.val image ⟨.unit, ⟨1, 1⟩, 1073741823, 1073741823⟩ =
      some .bufferLength := by
    have hSame : image.size = ⟨1, 1⟩ := rfl
    rw [crash?, if_pos hSame]
    exact hLength
  have hEnding : ((fit longCanvas.val image).perform ⟨.empty, []⟩).1 = .crashed .bufferLength := by
    rw [perform_fit ⟨.empty, []⟩ (by decide) (by decide) hPlan, hCrash]
  refine ⟨hEnding, fun hAlways => ?_⟩
  obtain hCapacity | ⟨canvas, plan, hDone⟩ :=
    hAlways longCanvas image ⟨.empty, []⟩ (by decide) (by decide)
  · cases hEnding.symm.trans hCapacity
  · cases hEnding.symm.trans hDone

end Iconsmith.Canvas
