import Iconsmith.Fit
import Iconsmith.Proofs.Binary64.Rounding

/-! What every plan has in common, the exact scale that its floating-point scale is
rounded from, and images that keep their size. A quotient of equal numbers is
computed as one and not as a number next to it, and so is the least of greater
quotients and one; a side times one is the side. -/
namespace Iconsmith.FitPlan

open Binary64 (Rounds)

theorem toNat_pos_of_ne_zero {n : UInt32} (h : n ≠ 0) : 0 < n.toNat :=
  Nat.pos_of_ne_zero fun hZero => h (UInt32.toNat_inj.mp hZero)

/-- A planned side is at least one and at most the canvas. -/
theorem toNat_clampSide (n : Nat) {canvas : UInt32} (hCanvas : canvas ≠ 0) :
    (clampSide n canvas).toNat = max 1 (min n canvas.toNat) := by
  have hLt := canvas.toNat_lt_size
  have hPos := toNat_pos_of_ne_zero hCanvas
  rw [clampSide, Nat.toUInt32_eq, UInt32.toNat_ofNat_of_lt' (by omega)]

/-- A plan for a canvas with pixels. Each side is clamped to the canvas before
it is subtracted from it. -/
theorem of?_eq_some (size : Size) {canvas : UInt32} (upscale : Bool) (hCanvas : canvas ≠ 0) :
    let side := fun s => clampSide ((fittingScale size canvas upscale).apply s) canvas
    of? size canvas upscale =
      some { scale := fittingScale size canvas upscale
             newSize := ⟨side size.width, side size.height⟩
             offsetX := (canvas - side size.width) / 2
             offsetY := (canvas - side size.height) / 2 } := by
  simp only [of?, if_neg hCanvas]

/-- A side of a plan lies on the canvas and in its middle, counted without
wrap-around. Of two margins that differ the one behind the side is larger. -/
structure Centred (canvas side offset : UInt32) : Prop where
  pos : 1 ≤ side.toNat
  le_canvas : side.toNat ≤ canvas.toNat
  toNat_end : (offset + side).toNat = offset.toNat + side.toNat
  end_le : offset.toNat + side.toNat ≤ canvas.toNat
  margins : canvas.toNat - (offset.toNat + side.toNat) = offset.toNat ∨
    canvas.toNat - (offset.toNat + side.toNat) = offset.toNat + 1

/-- Half of what a side leaves of the canvas centres it. -/
theorem centred_half {canvas side : UInt32} (hPos : 1 ≤ side.toNat)
    (hLe : side.toNat ≤ canvas.toNat) : Centred canvas side ((canvas - side) / 2) := by
  have hLt := canvas.toNat_lt
  have hOffset : ((canvas - side) / 2).toNat = (canvas.toNat - side.toNat) / 2 := by
    rw [UInt32.toNat_div, UInt32.toNat_sub_of_le _ _ (UInt32.le_iff_toNat_le.mpr hLe)]
    rfl
  refine ⟨hPos, hLe, ?_, ?_, ?_⟩
  · rw [UInt32.toNat_add, hOffset]
    exact Nat.mod_eq_of_lt (by omega)
  all_goals
    rw [hOffset]
    omega

/-- A planned side stands in the middle of the canvas, up to half a pixel. -/
theorem centred_clampSide (n : Nat) {canvas : UInt32} (hCanvas : canvas ≠ 0) :
    Centred canvas (clampSide n canvas) ((canvas - clampSide n canvas) / 2) := by
  have hSide := toNat_clampSide n hCanvas
  have hPos := toNat_pos_of_ne_zero hCanvas
  exact centred_half (by omega) (by omega)

/-- Exactly a canvas without pixels has no plan. Every other one has a plan
that fits and is centred, also for an image without pixels, whose scale may be
unbounded. -/
theorem of?_centred (size : Size) (canvas : UInt32) (upscale : Bool) :
    if canvas = 0 then of? size canvas upscale = none
    else ∃ plan, of? size canvas upscale = some plan ∧
      Centred canvas plan.newSize.width plan.offsetX ∧
      Centred canvas plan.newSize.height plan.offsetY := by
  split_ifs with hCanvas
  · simp [of?, hCanvas]
  · exact ⟨_, of?_eq_some size upscale hCanvas, centred_clampSide _ hCanvas,
      centred_clampSide _ hCanvas⟩

/-- The scale that the rounded one stands for. -/
def exactScale (size : Size) (canvas : UInt32) (upscale : Bool) : ℚ :=
  let s := min (canvas.toNat / size.width.toNat : ℚ) (canvas.toNat / size.height.toNat)
  if upscale then s else min s 1

/-- The scale of an image with pixels is rounded once: of two quotients the
lesser one is chosen after rounding, and one is not rounded at all. -/
theorem rounds_fittingScale {size : Size} (canvas : UInt32) (upscale : Bool)
    (hWidth : size.width ≠ 0) (hHeight : size.height ≠ 0) :
    ∃ x, fittingScale size canvas upscale = .finite x ∧
      Rounds (exactScale size canvas upscale) x.value := by
  have quotient {side : UInt32} (h : side ≠ 0) : Rounds (canvas.toNat / side.toNat : ℚ)
      (Binary64.ofRatio canvas.toNat side.toNat).value :=
    Binary64.rounds_ofRatio _ (toNat_pos_of_ne_zero h)
  have hOne : Rounds (1 : ℚ) Binary64.one.value := by
    rw [Binary64.value_one]
    exact_mod_cast (Binary64.representable_natCast (n := 1) (by norm_num)).rounds_self
  have hLesser := (quotient hWidth).lesser (quotient hHeight)
  simp only [fittingScale, Scale.ofSide, if_neg hWidth, if_neg hHeight, Scale.lesser, Scale.unit,
    exactScale]
  cases upscale with
  | true => exact ⟨_, rfl, hLesser⟩
  | false => exact ⟨_, rfl, hLesser.lesser hOne⟩

/-- The whole part of a scaled side is taken of a product that is rounded once
more. -/
theorem rounds_scaledSide (side : UInt32) (x : Binary64) :
    ∃ p, Rounds (side.toNat * x.value) p ∧
      ∀ n : Nat, n ≤ (Scale.finite x).apply side ↔ (n : ℚ) ≤ p := by
  have hSide : (Binary64.ofNat side.toNat).value = side.toNat :=
    Binary64.value_ofNat (side.toNat_lt.trans (by norm_num))
  refine ⟨((Binary64.ofNat side.toNat).mul x).value, ?_, fun n => Binary64.le_floor_iff _ n⟩
  rw [← hSide]
  exact Binary64.rounds_mul _ _

/-! ### The scale of images that keep their size -/

theorem rounds_one : Rounds 1 1 := by
  exact_mod_cast (Binary64.representable_natCast (n := 1) (by norm_num)).rounds_self

theorem rounds_side (side : UInt32) : Rounds side.toNat side.toNat :=
  (Binary64.representable_natCast (side.toNat_lt.trans (by norm_num))).rounds_self

/-- A finite scale for a canvas with pixels has its 53 bits. -/
theorem normal_fittingScale {size : Size} {canvas : UInt32} {upscale : Bool} {x : Binary64}
    (hCanvas : canvas ≠ 0) (hWidth : size.width ≠ 0) (hHeight : size.height ≠ 0)
    (h : fittingScale size canvas upscale = .finite x) : x.Normal := by
  have quotient {side : UInt32} (hSide : side ≠ 0) :
      (Binary64.ofRatio canvas.toNat side.toNat).Normal :=
    Binary64.normal_round (toNat_pos_of_ne_zero hCanvas).ne' (toNat_pos_of_ne_zero hSide) 0
  have hLesser := (quotient hWidth).lesser (quotient hHeight)
  simp only [fittingScale, Scale.ofSide, if_neg hWidth, if_neg hHeight, Scale.lesser,
    Scale.unit] at h
  cases upscale with
  | true => exact Scale.finite.inj h ▸ hLesser
  | false => exact Scale.finite.inj h ▸ hLesser.lesser Binary64.normal_one

/-- If the exact scale is one, then so is the computed one, in every bit. -/
theorem fittingScale_eq_unit {size : Size} {canvas : UInt32} {upscale : Bool}
    (hCanvas : canvas ≠ 0) (hWidth : size.width ≠ 0) (hHeight : size.height ≠ 0)
    (hExact : exactScale size canvas upscale = 1) :
    fittingScale size canvas upscale = .unit := by
  obtain ⟨x, hScale, hRounds⟩ := rounds_fittingScale canvas upscale hWidth hHeight
  have hValue : x.value = Binary64.one.value := by
    rw [Binary64.value_one]
    exact hRounds.unique (hExact ▸ rounds_one)
  have hNormal := normal_fittingScale hCanvas hWidth hHeight hScale
  rw [hScale, hNormal.eq_of_value Binary64.normal_one hValue, Scale.unit]

/-- The unit scale leaves sides as they are. -/
theorem apply_unit (side : UInt32) : Scale.unit.apply side = side.toNat := by
  obtain ⟨p, hRounds, hFloor⟩ := rounds_scaledSide side .one
  rw [Binary64.value_one, mul_one] at hRounds
  have hProduct : p = side.toNat := hRounds.unique (rounds_side side)
  refine Nat.le_antisymm ?_ ?_
  · have hLe := (hFloor (Scale.unit.apply side)).mp le_rfl
    rw [hProduct] at hLe
    exact_mod_cast hLe
  · exact (hFloor side.toNat).mpr (by rw [hProduct])

/-- A scale of at most one makes no side longer. -/
theorem apply_le {x : Binary64} (h : x.value ≤ 1) (side : UInt32) :
    (Scale.finite x).apply side ≤ side.toNat := by
  obtain ⟨p, hRounds, hFloor⟩ := rounds_scaledSide side x
  have hProduct : p ≤ side.toNat :=
    hRounds.mono (rounds_side side) (mul_le_of_le_one_right (Nat.cast_nonneg _) h)
  exact_mod_cast ((hFloor ((Scale.finite x).apply side)).mp le_rfl).trans hProduct

/-- A side that is not enlarged stays within the original one. -/
theorem clampSide_le {n : Nat} {side canvas : UInt32} (hCanvas : canvas ≠ 0) (hSide : side ≠ 0)
    (h : n ≤ side.toNat) : clampSide n canvas ≤ side := by
  have hPos := toNat_pos_of_ne_zero hSide
  rw [UInt32.le_iff_toNat_le, toNat_clampSide n hCanvas]
  omega

/-- A side that fits the canvas is kept. -/
theorem clampSide_toNat {side canvas : UInt32} (hSide : side ≠ 0) (h : side ≤ canvas) :
    clampSide side.toNat canvas = side := by
  have hPos := toNat_pos_of_ne_zero hSide
  have hLe := UInt32.le_iff_toNat_le.mp h
  have hCanvas : canvas ≠ 0 := by
    rintro rfl
    simp at hLe
    omega
  rw [← UInt32.toNat_inj, toNat_clampSide _ hCanvas]
  omega

/-- An image on the canvas whose exact scale is one keeps its sides. -/
theorem of?_of_exactScale_eq_one {size : Size} {canvas : UInt32} {upscale : Bool}
    (hWidth : size.width ≠ 0) (hHeight : size.height ≠ 0) (hWidthLe : size.width ≤ canvas)
    (hHeightLe : size.height ≤ canvas) (hExact : exactScale size canvas upscale = 1) :
    of? size canvas upscale =
      some ⟨.unit, size, (canvas - size.width) / 2, (canvas - size.height) / 2⟩ := by
  have hCanvas : canvas ≠ 0 := by
    rintro rfl
    exact hWidth (UInt32.le_zero_iff.mp hWidthLe)
  rw [of?_eq_some size upscale hCanvas]
  simp only [fittingScale_eq_unit hCanvas hWidth hHeight hExact, apply_unit,
    clampSide_toNat hWidth hWidthLe, clampSide_toNat hHeight hHeightLe]

/-- A side that fits the canvas would not have to be made smaller. -/
theorem one_le_quotient {side canvas : UInt32} (hSide : side ≠ 0) (h : side ≤ canvas) :
    (1 : ℚ) ≤ canvas.toNat / side.toNat := by
  have hPos : (0 : ℚ) < side.toNat := by exact_mod_cast toNat_pos_of_ne_zero hSide
  rw [le_div_iff₀ hPos, one_mul]
  exact_mod_cast UInt32.le_iff_toNat_le.mp h

/-- An image of the size of the canvas keeps it. -/
theorem exactScale_canvas {canvas : UInt32} (hCanvas : canvas ≠ 0) (upscale : Bool) :
    exactScale ⟨canvas, canvas⟩ canvas upscale = 1 := by
  have hPos : (canvas.toNat : ℚ) ≠ 0 := by exact_mod_cast (toNat_pos_of_ne_zero hCanvas).ne'
  cases upscale <;> simp [exactScale, div_self hPos]

theorem exactScale_le_one (size : Size) (canvas : UInt32) : exactScale size canvas false ≤ 1 :=
  min_le_right _ _

/-- Without enlarging a small image keeps its size. -/
theorem exactScale_of_le {size : Size} {canvas : UInt32} (hWidth : size.width ≠ 0)
    (hHeight : size.height ≠ 0) (hWidthLe : size.width ≤ canvas) (hHeightLe : size.height ≤ canvas) :
    exactScale size canvas false = 1 :=
  min_eq_right (le_min (one_le_quotient hWidth hWidthLe) (one_le_quotient hHeight hHeightLe))

end Iconsmith.FitPlan
