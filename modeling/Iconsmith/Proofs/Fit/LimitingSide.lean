import Iconsmith.Proofs.Fit.Plan

/-! The length of the longer side of a fitted image. In exact arithmetic it is
the canvas. Rounding the quotient can leave so little missing from the product
that it is rounded back to the canvas, or too much, and then the whole part
loses a pixel. -/
namespace Iconsmith.FitPlan

open Binary64 (Rounds nearest spacingBits)

/-- Bits after the point of the rounded quotient of canvas and side. -/
def quotientBits (side canvas : Nat) : Nat :=
  if canvas * 2 ^ side.log2 < side * 2 ^ canvas.log2 then 53 + side.log2 - canvas.log2
  else 52 + side.log2 - canvas.log2

/-- What the quotient loses, times the side, in units of its last bit, if it is
rounded down. -/
def shortfall (side canvas : Nat) : Nat := canvas * 2 ^ quotientBits side canvas % side

/-- The quotient of canvas and side is rounded down, and its product with the
side misses the canvas by more than half the gap below the canvas. -/
def FallsShort (side canvas : Nat) : Prop :=
  1 < canvas ∧ 2 * shortfall side canvas < side ∧
    2 ^ (quotientBits side canvas - spacingBits canvas) < 2 * shortfall side canvas

instance (side canvas : Nat) : Decidable (FallsShort side canvas) :=
  inferInstanceAs (Decidable (_ ∧ _ ∧ _))

/-- Twice the rest of a division is never the divisor if the dividend carries
at least as many factors of two: the quotient is no tie. -/
theorem two_mul_mod_ne {den s : Nat} (num : Nat) (hDen : 0 < den) (hs : den.log2 ≤ s) :
    2 * (num * 2 ^ s % den) ≠ den := by
  intro hTie
  obtain ⟨t, w, hOdd, hSplit⟩ := Nat.exists_eq_two_pow_mul_odd hDen.ne'
  have ht : t ≤ s := by
    have hPower : 2 ^ t ≤ den := by
      rw [hSplit]
      exact Nat.le_mul_of_pos_right _ hOdd.pos
    exact ((Nat.le_log2 hDen.ne').mpr hPower).trans hs
  have hDouble : den ∣ num * 2 ^ s * 2 := by
    refine ⟨2 * (num * 2 ^ s / den) + 1, ?_⟩
    calc num * 2 ^ s * 2 = (den * (num * 2 ^ s / den) + num * 2 ^ s % den) * 2 := by
          rw [Nat.div_add_mod]
      _ = den * (2 * (num * 2 ^ s / den)) + 2 * (num * 2 ^ s % den) := by ring
      _ = den * (2 * (num * 2 ^ s / den) + 1) := by rw [hTie]; ring
  have hw : w ∣ num := by
    have hDvd : w ∣ num * 2 ^ (s + 1) := by
      rw [pow_succ, ← mul_assoc]
      exact (hSplit ▸ Dvd.intro_left _ rfl : w ∣ den).trans hDouble
    exact (Nat.Coprime.pow_right _ hOdd.coprime_two_right).dvd_of_dvd_mul_right hDvd
  have hExact : den ∣ num * 2 ^ s := by
    rw [hSplit, mul_comm]
    exact mul_dvd_mul hw (pow_dvd_pow 2 ht)
  rw [Nat.mod_eq_zero_of_dvd hExact] at hTie
  omega

/-- A loss counted in bits after the point, against half a gap counted likewise. -/
theorem div_le_half_gap_iff {loss bits gap : Nat} (h : gap ≤ bits) :
    (loss : ℚ) / 2 ^ bits ≤ 2 ^ (-(gap : ℤ)) / 2 ↔ 2 * loss ≤ 2 ^ (bits - gap) := by
  have hSplit : (2 : ℚ) ^ bits = 2 ^ (bits - gap) * 2 ^ gap := by
    rw [← pow_add, Nat.sub_add_cancel h]
  have hCancel : ((2 : ℚ) ^ gap)⁻¹ / 2 * (2 ^ (bits - gap) * 2 ^ gap) = 2 ^ (bits - gap) / 2 := by
    field_simp
  rw [zpow_neg, zpow_natCast, div_le_iff₀ (by positivity), hSplit, hCancel, le_div_iff₀ two_pos,
    mul_comm]
  exact_mod_cast Iff.rfl

section Rounding

variable {side canvas : Nat} (hSide : 0 < side) (hCanvas : 0 < canvas)
  (hSmall : canvas < 2 ^ 32)

include hCanvas hSmall

/-- The quotient of a canvas of 32 bits has so many bits after the point that no
tie and no loss of a whole pixel can arise. -/
theorem log2_add_le_quotientBits (side : Nat) : side.log2 + 21 ≤ quotientBits side canvas := by
  have hLog : canvas.log2 < 32 := (Nat.log2_lt hCanvas.ne').mpr hSmall
  unfold quotientBits
  split_ifs <;> omega

include hSide

/-- Only the quotient by one has fewer bits after the point than the numbers
below the canvas, and it is exact. -/
theorem shortfall_eq_zero (h : quotientBits side canvas < spacingBits canvas) :
    shortfall side canvas = 0 := by
  have hLog : canvas.log2 < 32 := (Nat.log2_lt hCanvas.ne').mpr hSmall
  have hSideLog : side.log2 = 0 := by
    unfold quotientBits spacingBits at h
    split_ifs at h <;> omega
  have hHigh := Nat.lt_log2_self (n := side)
  rw [hSideLog] at hHigh
  rw [shortfall, (by omega : side = 1), Nat.mod_one]

/-- The quotient has 53 bits, so many of them after the point. -/
theorem quotientBits_spec :
    2 ^ 52 * side ≤ canvas * 2 ^ quotientBits side canvas ∧
      canvas * 2 ^ quotientBits side canvas < 2 ^ 53 * side := by
  have hSideLow := Nat.log2_self_le hSide.ne'
  have hSideHigh : side < 2 ^ (side.log2 + 1) := Nat.lt_log2_self
  have hCanvasLow := Nat.log2_self_le hCanvas.ne'
  have hCanvasHigh : canvas < 2 ^ (canvas.log2 + 1) := Nat.lt_log2_self
  have hLog : canvas.log2 < 32 := (Nat.log2_lt hCanvas.ne').mpr hSmall
  rw [pow_succ] at hSideHigh hCanvasHigh
  -- both bounds are compared after a multiplication with the leading bit of the canvas
  have hPos : 0 < 2 ^ canvas.log2 := by positivity
  have hShift (k : Nat) (hk : canvas.log2 ≤ k + side.log2) :
      canvas * 2 ^ (k + side.log2 - canvas.log2) * 2 ^ canvas.log2 =
        canvas * 2 ^ side.log2 * 2 ^ k := by
    rw [mul_assoc, mul_assoc, ← pow_add, ← pow_add]
    congr 2
    omega
  unfold quotientBits
  split_ifs with h
  · have hEq := hShift 53 (by omega)
    constructor
    · apply Nat.le_of_mul_le_mul_right _ hPos
      rw [hEq]
      nlinarith
    · apply Nat.lt_of_mul_lt_mul_right (a := 2 ^ canvas.log2)
      rw [hEq]
      nlinarith
  · have hEq := hShift 52 (by omega)
    constructor
    · apply Nat.le_of_mul_le_mul_right _ hPos
      rw [hEq]
      nlinarith
    · apply Nat.lt_of_mul_lt_mul_right (a := 2 ^ canvas.log2)
      rw [hEq]
      nlinarith

variable {v p : ℚ} (hv : Rounds (canvas / side : ℚ) v) (hp : Rounds (side * v) p)

include hv

/-- The rounded quotient, as an integer at its last bit. -/
theorem quotient_eq :
    v = nearest (canvas * 2 ^ quotientBits side canvas) side *
      2 ^ (-(quotientBits side canvas : ℤ)) := by
  obtain ⟨hLow, hHigh⟩ := quotientBits_spec hSide hCanvas hSmall
  have h := Binary64.rounds_nearest hSide hLow hHigh (-(quotientBits side canvas : ℤ))
  have hExact : ((canvas * 2 ^ quotientBits side canvas : ℕ) : ℚ) / side *
      2 ^ (-(quotientBits side canvas : ℤ)) = canvas / side := by
    push_cast
    rw [zpow_neg, zpow_natCast]
    field_simp
  rw [hExact] at h
  exact hv.unique h

/-- What the product with the rounded quotient misses, counted at its last bit. -/
theorem missing_mul :
    ((canvas : ℚ) - side * v) * 2 ^ quotientBits side canvas =
      shortfall side canvas + side * (canvas * 2 ^ quotientBits side canvas / side : ℕ) -
        side * nearest (canvas * 2 ^ quotientBits side canvas) side := by
  have hDivMod : (side : ℚ) * (canvas * 2 ^ quotientBits side canvas / side : ℕ) +
      shortfall side canvas = canvas * 2 ^ quotientBits side canvas := by
    exact_mod_cast Nat.div_add_mod (canvas * 2 ^ quotientBits side canvas) side
  rw [add_comm (shortfall side canvas : ℚ), hDivMod, quotient_eq hSide hCanvas hSmall hv, zpow_neg,
    zpow_natCast]
  field_simp

/-- A quotient that is rounded down misses its shortfall. -/
theorem missing_eq (hDown : 2 * shortfall side canvas < side) :
    (canvas : ℚ) - side * v = shortfall side canvas / 2 ^ quotientBits side canvas := by
  rw [eq_div_iff (by positivity), missing_mul hSide hCanvas hSmall hv,
    Binary64.nearest_of_two_mul_lt hDown]
  ring

/-- A quotient that is rounded up misses nothing. -/
theorem missing_nonpos (hUp : side < 2 * shortfall side canvas) :
    (canvas : ℚ) - side * v ≤ 0 := by
  have hRest : (shortfall side canvas : ℚ) ≤ side := by
    exact_mod_cast (Nat.mod_lt _ hSide).le
  have hUnit : (0 : ℚ) < 2 ^ quotientBits side canvas := by positivity
  have hMissing := missing_mul hSide hCanvas hSmall hv
  rw [Binary64.nearest_of_lt_two_mul hUp] at hMissing
  push_cast at hMissing
  apply nonpos_of_mul_nonpos_left _ hUnit
  linarith

include hp

/-- The product is rounded back to the canvas unless too much is missing. -/
theorem canvas_le_product_iff :
    (canvas : ℚ) ≤ p ↔ ¬(2 * shortfall side canvas < side ∧
      2 ^ (quotientBits side canvas - spacingBits canvas) < 2 * shortfall side canvas) := by
  have hBits := log2_add_le_quotientBits hCanvas hSmall side
  have hHalf : (0 : ℚ) ≤ 2 ^ (-(spacingBits canvas : ℤ)) / 2 := by positivity
  rw [hp.natCast_le_iff hCanvas.ne' (hSmall.trans (by norm_num))]
  rcases lt_trichotomy (2 * shortfall side canvas) side with hDown | hTie | hUp
  · rw [missing_eq hSide hCanvas hSmall hv hDown]
    simp only [hDown, true_and, not_lt]
    by_cases hGap : spacingBits canvas ≤ quotientBits side canvas
    · exact div_le_half_gap_iff hGap
    · rw [shortfall_eq_zero hSide hCanvas hSmall (not_le.mp hGap), Nat.cast_zero, zero_div]
      exact iff_of_true hHalf (Nat.zero_le _)
  · exact absurd hTie (two_mul_mod_ne canvas hSide (by omega))
  · have hAll := missing_nonpos hSide hCanvas hSmall hv hUp
    exact iff_of_true (hAll.trans hHalf) (by omega)

/-- The product never loses more than one pixel. -/
theorem pred_canvas_le_product : ((canvas - 1 : ℕ) : ℚ) ≤ p := by
  have hBits := log2_add_le_quotientBits hCanvas hSmall side
  have hMissing : (canvas : ℚ) - side * v ≤ 1 := by
    rcases lt_trichotomy (2 * shortfall side canvas) side with hDown | hTie | hUp
    · have hRest : (shortfall side canvas : ℚ) ≤ 2 ^ quotientBits side canvas := by
        have hSideHigh : side < 2 ^ (side.log2 + 1) := Nat.lt_log2_self
        have hPower : 2 ^ (side.log2 + 1) ≤ 2 ^ quotientBits side canvas :=
          Nat.pow_le_pow_right (by norm_num) (by omega)
        exact_mod_cast (by omega : shortfall side canvas ≤ 2 ^ quotientBits side canvas)
      rw [missing_eq hSide hCanvas hSmall hv hDown]
      exact (div_le_one (by positivity)).mpr hRest
    · exact absurd hTie (two_mul_mod_ne canvas hSide (by omega))
    · linarith [missing_nonpos hSide hCanvas hSmall hv hUp]
  have hExact := (Binary64.representable_natCast (by omega : canvas - 1 < 2 ^ 53)).rounds_self
  apply hExact.mono hp
  rw [Nat.cast_sub (by omega)]
  push_cast
  linarith

end Rounding

/-- The length that the limiting side gets: the canvas, or one pixel less. -/
def limitingLength (side canvas : Nat) : Nat :=
  if FallsShort side canvas then canvas - 1 else canvas

theorem limitingLength_bounds (side canvas : Nat) :
    canvas - 1 ≤ limitingLength side canvas ∧ limitingLength side canvas ≤ canvas := by
  unfold limitingLength
  split_ifs <;> omega

/-- At most one pixel of the canvas is left, and half of it is none. -/
theorem limitingSide_offset {side canvas : UInt32} {longer : Nat}
    (h : side.toNat = limitingLength longer canvas.toNat) : (canvas - side) / 2 = 0 := by
  obtain ⟨hLow, hHigh⟩ := limitingLength_bounds longer canvas.toNat
  apply UInt32.toNat_inj.mp
  rw [UInt32.toNat_div, UInt32.toNat_sub_of_le _ _ (UInt32.le_iff_toNat_le.mpr (by omega))]
  change (canvas.toNat - side.toNat) / 2 = 0
  omega

/-- A side that the scale makes as long as the canvas, in floating point. -/
theorem toNat_clampSide_limiting {side canvas : UInt32} (hSide : side ≠ 0) (hCanvas : canvas ≠ 0)
    {x : Binary64} (hScale : Rounds (canvas.toNat / side.toNat : ℚ) x.value) :
    (clampSide ((Scale.finite x).apply side) canvas).toNat =
      limitingLength side.toNat canvas.toNat := by
  have hSidePos := toNat_pos_of_ne_zero hSide
  have hCanvasPos := toNat_pos_of_ne_zero hCanvas
  obtain ⟨p, hProduct, hFloor⟩ := rounds_scaledSide side x
  have hFull := canvas_le_product_iff hSidePos hCanvasPos canvas.toNat_lt hScale hProduct
  have hPred := pred_canvas_le_product hSidePos hCanvasPos canvas.toNat_lt hScale hProduct
  rw [← hFloor] at hFull hPred
  rw [toNat_clampSide _ hCanvas]
  by_cases hShort : FallsShort side.toNat canvas.toNat
  · have hBelow := mt hFull.mp (not_not.mpr hShort.2)
    have hSeveral := hShort.1
    rw [limitingLength, if_pos hShort]
    omega
  · rw [limitingLength, if_neg hShort]
    by_cases hOne : canvas.toNat = 1
    · omega
    · have hReached := hFull.mpr fun h => hShort ⟨by omega, h⟩
      omega

/-- The scale is set by the longer side unless enlarging is ruled out and both
sides are shorter than the canvas. -/
theorem exactScale_of_limiting {size : Size} {canvas : UInt32} {upscale : Bool}
    (hWidth : size.width ≠ 0) (hHeight : size.height ≠ 0)
    (hLimit : upscale = true ∨ canvas ≤ size.width ∨ canvas ≤ size.height) :
    exactScale size canvas upscale =
      canvas.toNat / (max size.width.toNat size.height.toNat : ℕ) := by
  have hWidthPos := toNat_pos_of_ne_zero hWidth
  have hHeightPos := toNat_pos_of_ne_zero hHeight
  have hMin : min (canvas.toNat / size.width.toNat : ℚ) (canvas.toNat / size.height.toNat) =
      canvas.toNat / (max size.width.toNat size.height.toNat : ℕ) := by
    rcases le_total size.width.toNat size.height.toNat with h | h
    · rw [max_eq_right h, min_eq_right]
      exact div_le_div_of_nonneg_left (by positivity) (by exact_mod_cast hWidthPos)
        (by exact_mod_cast h)
    · rw [max_eq_left h, min_eq_left]
      exact div_le_div_of_nonneg_left (by positivity) (by exact_mod_cast hHeightPos)
        (by exact_mod_cast h)
  simp only [exactScale, hMin]
  split_ifs with hUpscale
  · rfl
  · apply min_eq_left
    have hLonger : canvas.toNat ≤ max size.width.toNat size.height.toNat := by
      rcases hLimit with h | h | h
      · exact absurd h hUpscale
      · exact (UInt32.le_iff_toNat_le.mp h).trans (le_max_left _ _)
      · exact (UInt32.le_iff_toNat_le.mp h).trans (le_max_right _ _)
    exact div_le_one_of_le₀ (by exact_mod_cast hLonger) (by positivity)

/-- The longer side of an image that is shrunk, or may be enlarged, fills the
canvas or, exactly where the rounded quotient falls short, all but one pixel of
it. Either way nothing is left in front of it. -/
theorem of?_limitingSide (size : Size) (canvas : UInt32) (upscale : Bool)
    (hWidth : size.width ≠ 0) (hHeight : size.height ≠ 0) (hCanvas : canvas ≠ 0)
    (hLimit : upscale = true ∨ canvas ≤ size.width ∨ canvas ≤ size.height) :
    ∃ plan, of? size canvas upscale = some plan ∧
      (size.height ≤ size.width →
        plan.newSize.width.toNat = limitingLength size.width.toNat canvas.toNat ∧
          plan.offsetX = 0) ∧
      (size.width ≤ size.height →
        plan.newSize.height.toNat = limitingLength size.height.toNat canvas.toNat ∧
          plan.offsetY = 0) := by
  obtain ⟨x, hScale, hRounds⟩ := rounds_fittingScale canvas upscale hWidth hHeight
  rw [exactScale_of_limiting hWidth hHeight hLimit] at hRounds
  refine ⟨_, of?_eq_some size upscale hCanvas, ?_, ?_⟩
  · intro h
    rw [max_eq_left (UInt32.le_iff_toNat_le.mp h)] at hRounds
    have hLength := toNat_clampSide_limiting hWidth hCanvas hRounds
    rw [← hScale] at hLength
    exact ⟨hLength, limitingSide_offset hLength⟩
  · intro h
    rw [max_eq_right (UInt32.le_iff_toNat_le.mp h)] at hRounds
    have hLength := toNat_clampSide_limiting hHeight hCanvas hRounds
    rw [← hScale] at hLength
    exact ⟨hLength, limitingSide_offset hLength⟩

/-- A side of 49 pixels falls short of a canvas of 32. -/
theorem limitingSide_fortyNine :
    (49 : UInt32) ≠ 0 ∧ (20 : UInt32) ≠ 0 ∧ (32 : UInt32) ≠ 0 ∧ (32 : UInt32) ≤ 49 ∧
      ∃ plan, of? ⟨49, 20⟩ 32 false = some plan ∧ plan.newSize.width.toNat = 31 ∧
        plan.offsetX = 0 := by
  refine ⟨by decide, by decide, by decide, by decide, ?_⟩
  obtain ⟨plan, hPlan, hWide, -⟩ := of?_limitingSide ⟨49, 20⟩ 32 false
    (by decide) (by decide) (by decide) (Or.inr (Or.inl (by decide)))
  have hLength : limitingLength 49 32 = 31 := by decide
  obtain ⟨hWidth, hOffset⟩ := hWide (by decide)
  exact ⟨plan, hPlan, hWidth.trans hLength, hOffset⟩

/-- So the limiting side does not always fill the canvas. -/
theorem limitingSide_not_always_full :
    ¬∀ (size : Size) (canvas : UInt32) (upscale : Bool), size.width ≠ 0 → size.height ≠ 0 →
      canvas ≠ 0 → (upscale = true ∨ canvas ≤ size.width ∨ canvas ≤ size.height) →
      ∃ plan, of? size canvas upscale = some plan ∧
        (size.height ≤ size.width → plan.newSize.width = canvas) := by
  intro hFull
  obtain ⟨plan, hPlan, hWidth⟩ := hFull ⟨49, 49⟩ 32 true (by decide) (by decide) (by decide)
    (Or.inl rfl)
  have hSides : (of? ⟨49, 49⟩ 32 true).map FitPlan.newSize = some ⟨31, 31⟩ := by decide
  rw [hPlan, Option.map_some, Option.some.injEq] at hSides
  have hShort := hWidth (by decide)
  rw [hSides] at hShort
  exact absurd hShort (by decide)

end Iconsmith.FitPlan
