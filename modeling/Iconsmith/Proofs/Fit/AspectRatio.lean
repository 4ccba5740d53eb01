import Iconsmith.Proofs.Binary64.Accuracy
import Iconsmith.Proofs.Fit.Plan

/-! The ratio of the sides of a fitted image. Both sides are scaled by one rounded
quotient, each product is rounded once more, and two roundings move no side of 32
bits by more than a pixel away from the exact one. -/
namespace Iconsmith.FitPlan

open Binary64 (Rounds off_self)

theorem exactScale_nonneg (size : Size) (canvas : UInt32) (upscale : Bool) :
    0 ≤ exactScale size canvas upscale := by
  have hQuotients : (0 : ℚ) ≤
      min (canvas.toNat / size.width.toNat : ℚ) (canvas.toNat / size.height.toNat) :=
    le_min (by positivity) (by positivity)
  cases upscale with
  | true => exact hQuotients
  | false => exact le_min hQuotients zero_le_one

theorem exactScale_le_quotients (size : Size) (canvas : UInt32) (upscale : Bool) :
    exactScale size canvas upscale ≤ canvas.toNat / size.width.toNat ∧
      exactScale size canvas upscale ≤ canvas.toNat / size.height.toNat := by
  have hMin : exactScale size canvas upscale ≤
      min (canvas.toNat / size.width.toNat : ℚ) (canvas.toNat / size.height.toNat) := by
    cases upscale with
    | true => exact le_rfl
    | false => exact min_le_left _ _
  exact ⟨hMin.trans (min_le_left _ _), hMin.trans (min_le_right _ _)⟩

section Side

variable {side canvas : UInt32} {scale : ℚ} {x : Binary64} (hScale : 0 ≤ scale)
  (hRounds : Rounds scale x.value) (hLe : side.toNat * scale ≤ canvas.toNat)

include hScale hRounds hLe

/-- The whole part of a scaled side, computed with two roundings. -/
theorem adjacent_apply :
    Adjacent ((Scale.finite x).apply side) ⌊side.toNat * scale⌋₊ := by
  obtain ⟨p, hProduct, hFloor⟩ := rounds_scaledSide side x
  have hWhole : (Scale.finite x).apply side = ⌊p⌋₊ :=
    eq_of_forall_le_iff fun n => by rw [hFloor, Nat.le_floor_iff hProduct.nonneg]
  have hSide : (0 : ℚ) ≤ side.toNat * scale := mul_nonneg (Nat.cast_nonneg _) hScale
  have hFirst := (off_self scale).rounds hRounds hScale (by norm_num)
  have hBoth := (hFirst.scale (Nat.cast_nonneg side.toNat)).rounds hProduct hSide (by norm_num)
  have hCanvas : (canvas.toNat : ℚ) < 2 ^ 32 := by exact_mod_cast canvas.toNat_lt
  rw [hWhole]
  refine hBoth.adjacent_floor hSide hProduct.nonneg ?_
  push_cast
  linarith

/-- What is brought between one pixel and the canvas was no farther away before. -/
theorem adjacent_clampSide (hCanvas : canvas ≠ 0) :
    Adjacent (clampSide ((Scale.finite x).apply side) canvas).toNat
      (max 1 ⌊side.toNat * scale⌋₊) := by
  have hExact : ⌊side.toNat * scale⌋₊ ≤ canvas.toNat := Nat.floor_le_of_le hLe
  have hPos := toNat_pos_of_ne_zero hCanvas
  obtain ⟨hLow, hHigh⟩ := adjacent_apply hScale hRounds hLe
  rw [toNat_clampSide _ hCanvas, Adjacent]
  omega

end Side

/-- The aspect ratio is kept to within a pixel: each planned side is the whole part
of the exactly scaled one, and no less than one pixel, or a number next to that. -/
theorem of?_sides_adjacent (size : Size) (canvas : UInt32) (upscale : Bool)
    (hWidth : size.width ≠ 0) (hHeight : size.height ≠ 0) (hCanvas : canvas ≠ 0) :
    ∃ plan, of? size canvas upscale = some plan ∧
      Adjacent plan.newSize.width.toNat
        (max 1 ⌊size.width.toNat * exactScale size canvas upscale⌋₊) ∧
      Adjacent plan.newSize.height.toNat
        (max 1 ⌊size.height.toNat * exactScale size canvas upscale⌋₊) := by
  obtain ⟨x, hScale, hRounds⟩ := rounds_fittingScale canvas upscale hWidth hHeight
  have hNonneg := exactScale_nonneg size canvas upscale
  have fits {side : UInt32} (hSide : side ≠ 0)
      (hLe : exactScale size canvas upscale ≤ canvas.toNat / side.toNat) :
      side.toNat * exactScale size canvas upscale ≤ canvas.toNat := by
    have hPos : (0 : ℚ) < side.toNat := by exact_mod_cast toNat_pos_of_ne_zero hSide
    rwa [le_div_iff₀ hPos, mul_comm] at hLe
  obtain ⟨hByWidth, hByHeight⟩ := exactScale_le_quotients size canvas upscale
  refine ⟨_, of?_eq_some size upscale hCanvas, ?_, ?_⟩
  · rw [hScale]
    exact adjacent_clampSide hNonneg hRounds (fits hWidth hByWidth) hCanvas
  · rw [hScale]
    exact adjacent_clampSide hNonneg hRounds (fits hHeight hByHeight) hCanvas

/-- For 49 by 20 pixels the exact sides are 32 and 13, and the planned ones 31 and 13. -/
theorem sides_adjacent_fortyNine :
    (49 : UInt32) ≠ 0 ∧ (20 : UInt32) ≠ 0 ∧ (32 : UInt32) ≠ 0 ∧
      ∃ plan, of? ⟨49, 20⟩ 32 false = some plan ∧ plan.newSize = ⟨31, 13⟩ ∧
        Adjacent plan.newSize.width.toNat 32 ∧ Adjacent plan.newSize.height.toNat 13 := by
  refine ⟨by decide, by decide, by decide, ?_⟩
  obtain ⟨plan, hPlan, hWidth, hHeight⟩ :=
    of?_sides_adjacent ⟨49, 20⟩ 32 false (by decide) (by decide) (by decide)
  have hExactWidth :
      max 1 ⌊((49 : UInt32).toNat : ℚ) * exactScale ⟨49, 20⟩ 32 false⌋₊ = 32 := by decide +kernel
  have hExactHeight :
      max 1 ⌊((20 : UInt32).toNat : ℚ) * exactScale ⟨49, 20⟩ 32 false⌋₊ = 13 := by decide +kernel
  rw [hExactWidth] at hWidth
  rw [hExactHeight] at hHeight
  have hSides : (of? ⟨49, 20⟩ 32 false).map FitPlan.newSize = some ⟨31, 13⟩ := by decide
  rw [hPlan, Option.map_some, Option.some.injEq] at hSides
  exact ⟨plan, hPlan, hSides, hWidth, hHeight⟩

end Iconsmith.FitPlan
