import Iconsmith.Binary64
import Mathlib.Tactic

/-! Rounding to 53 bits, said without the algorithm: a representable number is
reached by a rounded one exactly from the midpoint below it on. Everything that
is used about quotients and products follows from this one description. -/
namespace Iconsmith.Binary64

/-- The number that a significand and an exponent stand for. -/
def value (x : Binary64) : ℚ := x.significand * 2 ^ x.exponent

/-- The significand has exactly 53 bits. -/
def Normal (x : Binary64) : Prop := 2 ^ 52 ≤ x.significand ∧ x.significand < 2 ^ 53

/-- Zero and the numbers with a significand of 53 bits. A power of two is
written with the greatest significand, so that half a unit below it always
measures the gap to its predecessor. -/
def Representable (v : ℚ) : Prop :=
  v = 0 ∨ ∃ (m : ℕ) (k : ℤ), 2 ^ 52 < m ∧ m ≤ 2 ^ 53 ∧ v = m * 2 ^ k

/-- The exact number `q` is near enough to be rounded up to `m * 2 ^ k`. The
midpoint itself belongs to the even neighbour. -/
def Reaches (q : ℚ) (m : ℕ) (k : ℤ) : Prop :=
  if Even m then ((m : ℚ) - 1 / 2) * 2 ^ k ≤ q else ((m : ℚ) - 1 / 2) * 2 ^ k < q

/-- The number `v` is `q` rounded to nearest, ties to even. -/
structure Rounds (q v : ℚ) : Prop where
  representable : Representable v
  le_iff : ∀ {m : ℕ} {k : ℤ}, 2 ^ 52 < m → m ≤ 2 ^ 53 → ((m : ℚ) * 2 ^ k ≤ v ↔ Reaches q m k)

/-- What rounds to a multiple or more is at most half a spacing below it. -/
theorem Reaches.le {q : ℚ} {m : ℕ} {k : ℤ} (h : Reaches q m k) :
    ((m : ℚ) - 1 / 2) * 2 ^ k ≤ q := by
  unfold Reaches at h
  split_ifs at h
  · exact h
  · exact h.le

/-- What is less than half a spacing below a multiple rounds to it or more. -/
theorem reaches_of_lt {q : ℚ} {m : ℕ} {k : ℤ} (h : ((m : ℚ) - 1 / 2) * 2 ^ k < q) :
    Reaches q m k := by
  unfold Reaches
  split_ifs
  · exact h.le
  · exact h

theorem Reaches.mono {q q' : ℚ} {m : ℕ} {k : ℤ} (h : Reaches q m k) (hLe : q ≤ q') :
    Reaches q' m k := by
  unfold Reaches at h ⊢
  split_ifs at h ⊢
  · exact h.trans hLe
  · exact h.trans_le hLe

theorem two_zpow_pos (k : ℤ) : (0 : ℚ) < 2 ^ k := zpow_pos two_pos k

/-- Between two exponents lies a factor of two at least. -/
theorem two_mul_zpow_le {k e : ℤ} (h : k < e) : 2 * (2 : ℚ) ^ k ≤ 2 ^ e := by
  calc 2 * (2 : ℚ) ^ k = 2 ^ (k + 1) := by rw [zpow_add_one₀ two_ne_zero, mul_comm]
    _ ≤ 2 ^ e := zpow_le_zpow_right₀ one_le_two h

theorem Representable.nonneg {v : ℚ} (h : Representable v) : 0 ≤ v := by
  rcases h with rfl | ⟨m, k, -, -, rfl⟩
  · exact le_rfl
  · have := two_zpow_pos k
    positivity

theorem Rounds.nonneg {q v : ℚ} (h : Rounds q v) : 0 ≤ v := h.representable.nonneg

/-- Rounding keeps the order. -/
theorem Rounds.mono {q q' v v' : ℚ} (h : Rounds q v) (h' : Rounds q' v') (hLe : q ≤ q') :
    v ≤ v' := by
  rcases h.representable with hZero | ⟨m, k, hLow, hHigh, rfl⟩
  · rw [hZero]
    exact h'.nonneg
  · exact (h'.le_iff hLow hHigh).mpr (((h.le_iff hLow hHigh).mp le_rfl).mono hLe)

/-- A number is rounded in one way only. -/
theorem Rounds.unique {q v v' : ℚ} (h : Rounds q v) (h' : Rounds q v') : v = v' :=
  le_antisymm (h.mono h' le_rfl) (h'.mono h le_rfl)

/-- Zero is kept: no positive number is reached from it. -/
theorem rounds_zero : Rounds 0 0 where
  representable := Or.inl rfl
  le_iff {m k} hLow _ := by
    have hOne : (1 : ℚ) ≤ m := by exact_mod_cast (by omega : 1 ≤ m)
    have hUnit := two_zpow_pos k
    have hHalf : (0 : ℚ) < (m - 1 / 2) * 2 ^ k := mul_pos (by linarith) hUnit
    have hWhole : (0 : ℚ) < m * 2 ^ k := mul_pos (by linarith) hUnit
    exact ⟨fun h => absurd h (not_le.mpr hWhole), fun h => absurd h.le (not_le.mpr hHalf)⟩

/-- At a smaller exponent than its own a value reaches all numbers. -/
theorem reaches_of_exponent_lt {q : ℚ} {m : ℕ} {k e : ℤ} (hk : k < e) (hm : m ≤ 2 ^ 53)
    (hq : 2 ^ 52 * 2 ^ e ≤ q) : (m : ℚ) * 2 ^ k ≤ 2 ^ 52 * 2 ^ e ∧ Reaches q m k := by
  have hmQ : (m : ℚ) ≤ 2 ^ 53 := by exact_mod_cast hm
  have hUnit := two_zpow_pos k
  have hTwice := two_mul_zpow_le hk
  have hAll : (m : ℚ) * 2 ^ k ≤ 2 ^ 52 * 2 ^ e := by nlinarith
  refine ⟨hAll, reaches_of_lt ?_⟩
  calc ((m : ℚ) - 1 / 2) * 2 ^ k < m * 2 ^ k := by nlinarith
    _ ≤ 2 ^ 52 * 2 ^ e := hAll
    _ ≤ q := hq

/-- At a greater exponent than its own a value does not even come near a number. -/
theorem lt_of_exponent_lt {m : ℕ} {k e : ℤ} (hk : e < k) (hm : 2 ^ 52 < m) :
    (2 : ℚ) ^ 53 * 2 ^ e < ((m : ℚ) - 1 / 2) * 2 ^ k := by
  have hmQ : (2 : ℚ) ^ 52 + 1 ≤ m := by exact_mod_cast hm
  have hUnit := two_zpow_pos e
  have hTwice := two_mul_zpow_le hk
  nlinarith

section Nearest

/-- The thresholds of rounding a ratio to an integer. -/
theorem le_nearest_iff {num den m : ℕ} (hDen : 0 < den) (hm : 0 < m) :
    m ≤ nearest num den ↔
      if Even m then (2 * m - 1) * den ≤ 2 * num else (2 * m - 1) * den < 2 * num := by
  have hDiv := Nat.div_add_mod num den
  have hMod := Nat.mod_lt num hDen
  generalize hq : num / den = q at hDiv
  generalize hr : num % den = r at hDiv hMod
  have hTwice : (2 * m - 1) * den = 2 * (m * den) - den := by
    rw [Nat.sub_mul, Nat.one_mul, Nat.mul_assoc]
  have hNearest : nearest num den =
      if 2 * r > den || (2 * r == den && q % 2 == 1) then q + 1 else q := by
    unfold nearest
    rw [hq, hr]
  rcases (by omega : m ≤ q ∨ m = q + 1 ∨ q + 2 ≤ m) with hLe | rfl | hGe
  · -- far below the quotient: both sides hold
    have hMul : m * den ≤ den * q := by
      rw [Nat.mul_comm]
      exact Nat.mul_le_mul_left den hLe
    have hPos : 0 < m * den := Nat.mul_pos hm hDen
    have hLt : (2 * m - 1) * den < 2 * num := by omega
    have hBoth : m ≤ nearest num den := by rw [hNearest]; split <;> omega
    simp only [hBoth, true_iff]
    split_ifs
    · exact hLt.le
    · exact hLt
  · -- the only candidate above the quotient: the remainder and then parity decide
    have hMul : (q + 1) * den = den * q + den := by rw [Nat.add_mul, Nat.one_mul, Nat.mul_comm]
    have hParity : Even (q + 1) ↔ q % 2 = 1 := by rw [Nat.even_iff]; omega
    have hUp : q + 1 ≤ nearest num den ↔ den < 2 * r ∨ (2 * r = den ∧ q % 2 = 1) := by
      rw [hNearest]
      split_ifs with h <;>
        simp only [gt_iff_lt, Bool.or_eq_true, decide_eq_true_eq, Bool.and_eq_true, beq_iff_eq] at h <;>
        omega
    rw [hUp, hTwice, hMul]
    split_ifs with hEven
    · have := hParity.mp hEven
      omega
    · have := mt hParity.mpr hEven
      omega
  · -- beyond both candidates: neither side holds
    have hMul : den * q + 2 * den ≤ m * den := by
      calc den * q + 2 * den = (q + 2) * den := by ring
        _ ≤ m * den := Nat.mul_le_mul_right den hGe
    have hNot : ¬m ≤ nearest num den := by rw [hNearest]; split <;> omega
    simp only [hNot, false_iff]
    split_ifs <;> omega

/-- The same thresholds at a scale. -/
theorem le_nearest_iff_reaches {num den m : ℕ} (k : ℤ) (hDen : 0 < den) (hm : 0 < m) :
    m ≤ nearest num den ↔ Reaches (num / den * 2 ^ k) m k := by
  have hDenQ : (0 : ℚ) < den := by exact_mod_cast hDen
  have hCast : (((2 * m - 1) * den : ℕ) : ℚ) = (2 * m - 1) * den := by
    rw [Nat.cast_mul, Nat.cast_sub (by omega)]
    push_cast
    rfl
  have hScale : (((m : ℚ) - 1 / 2) * 2 ^ k ≤ num / den * 2 ^ k ↔
      (2 * m - 1) * den ≤ 2 * num) ∧
      (((m : ℚ) - 1 / 2) * 2 ^ k < num / den * 2 ^ k ↔ (2 * m - 1) * den < 2 * num) := by
    rw [mul_le_mul_iff_left₀ (two_zpow_pos k), mul_lt_mul_iff_left₀ (two_zpow_pos k),
      le_div_iff₀ hDenQ, lt_div_iff₀ hDenQ]
    rw [← Nat.cast_le (α := ℚ), ← Nat.cast_lt (α := ℚ), hCast]
    push_cast
    constructor <;> constructor <;> intro h <;> linarith
  rw [le_nearest_iff hDen hm, Reaches, hScale.1, hScale.2]

variable {num den : ℕ} (hDen : 0 < den) (hLow : 2 ^ 52 * den ≤ num) (hHigh : num < 2 ^ 53 * den)

include hDen hLow hHigh

/-- A ratio of 53 bits before the point stays one when it is rounded, or
becomes the next power of two. -/
theorem nearest_bounds : 2 ^ 52 ≤ nearest num den ∧ nearest num den ≤ 2 ^ 53 := by
  constructor
  · rw [le_nearest_iff hDen (by norm_num), if_pos (by decide)]
    omega
  · by_contra h
    have hNext : 2 ^ 53 + 1 ≤ nearest num den := by omega
    rw [le_nearest_iff hDen (by norm_num), if_neg (by decide)] at hNext
    omega

/-- A ratio of 53 bits before the point is rounded to the nearest integer. At a
greater exponent than its own no number is reached, at a smaller one all are. -/
theorem rounds_nearest (e : ℤ) : Rounds (num / den * 2 ^ e) (nearest num den * 2 ^ e) := by
  obtain ⟨hMin, hMax⟩ := nearest_bounds hDen hLow hHigh
  have hDenQ : (0 : ℚ) < den := by exact_mod_cast hDen
  have hRatioLow : (2 : ℚ) ^ 52 ≤ num / den := by
    rw [le_div_iff₀ hDenQ]
    exact_mod_cast hLow
  have hRatioHigh : (num : ℚ) / den < 2 ^ 53 := by
    rw [div_lt_iff₀ hDenQ]
    exact_mod_cast hHigh
  have hMinQ : (2 : ℚ) ^ 52 ≤ nearest num den := by exact_mod_cast hMin
  have hMaxQ : (nearest num den : ℚ) ≤ 2 ^ 53 := by exact_mod_cast hMax
  have hUnit := two_zpow_pos e
  constructor
  · refine Or.inr ?_
    rcases hMin.lt_or_eq with hLt | hEq
    · exact ⟨nearest num den, e, hLt, hMax, rfl⟩
    · refine ⟨2 ^ 53, e - 1, by norm_num, le_rfl, ?_⟩
      rw [← hEq, zpow_sub_one₀ two_ne_zero]
      push_cast
      ring
  · intro m k hm hm'
    -- The integer only matters at the exponent of the ratio itself.
    rcases lt_trichotomy k e with hk | rfl | hk
    · obtain ⟨hAll, hReaches⟩ := reaches_of_exponent_lt hk hm'
        (mul_le_mul_of_nonneg_right hRatioLow hUnit.le)
      exact ⟨fun _ => hReaches, fun _ => hAll.trans (mul_le_mul_of_nonneg_right hMinQ hUnit.le)⟩
    · rw [← le_nearest_iff_reaches k hDen (by omega), mul_le_mul_iff_left₀ hUnit]
      exact Nat.cast_le
    · have hNone := lt_of_exponent_lt hk hm
      have hUnit' := two_zpow_pos k
      constructor
      · intro h
        have hTop := h.trans (mul_le_mul_of_nonneg_right hMaxQ hUnit.le)
        linarith
      · intro h
        have hTop := h.le.trans_lt (mul_lt_mul_of_pos_right hRatioHigh hUnit)
        linarith

end Nearest

/-- A remainder below the half is dropped. -/
theorem nearest_of_two_mul_lt {num den : ℕ} (h : 2 * (num % den) < den) :
    nearest num den = num / den := by
  unfold nearest
  rw [if_neg]
  simp only [gt_iff_lt, Bool.or_eq_true, decide_eq_true_eq, Bool.and_eq_true, beq_iff_eq]
  omega

theorem nearest_of_lt_two_mul {num den : ℕ} (h : den < 2 * (num % den)) :
    nearest num den = num / den + 1 := by
  unfold nearest
  rw [if_pos]
  simp [h]

theorem nearest_one (n : ℕ) : nearest n 1 = n := by simp [nearest, Nat.mod_one]

/-- A representable number is its own rounding. -/
theorem Representable.rounds_self {v : ℚ} (h : Representable v) : Rounds v v := by
  have whole {n : ℕ} (hLow : 2 ^ 52 ≤ n) (hHigh : n < 2 ^ 53) (e : ℤ) :
      Rounds ((n : ℚ) * 2 ^ e) (n * 2 ^ e) := by
    simpa [nearest_one] using
      rounds_nearest one_pos (by omega : 2 ^ 52 * 1 ≤ n) (by omega) e
  rcases h with rfl | ⟨m, k, hLow, hHigh, rfl⟩
  · exact rounds_zero
  · rcases hHigh.lt_or_eq with hLt | rfl
    · exact whole hLow.le hLt k
    · -- the greatest significand is the least one of the next exponent
      have hTwice : ((2 ^ 53 : ℕ) : ℚ) * 2 ^ k = ((2 ^ 52 : ℕ) : ℚ) * 2 ^ (k + 1) := by
        rw [zpow_add_one₀ two_ne_zero]
        push_cast
        ring
      rw [hTwice]
      exact whole le_rfl (by norm_num) (k + 1)

section Round

variable {num den : ℕ}

theorem scaled_den_pos (num : ℕ) (hDen : 0 < den) (e : ℤ) : 0 < (scaled num den e).2 := by
  unfold scaled
  split_ifs
  · exact hDen
  · simpa [Nat.shiftLeft_eq] using hDen

/-- Scaling moves powers of two between fraction and exponent. -/
theorem scaled_ratio (num den : ℕ) (e : ℤ) :
    ((scaled num den e).1 : ℚ) / (scaled num den e).2 = num / den * 2 ^ (-e) := by
  unfold scaled
  split_ifs with h
  · have hExp : (-e) = ((-e).toNat : ℤ) := by omega
    rw [Nat.shiftLeft_eq]
    push_cast
    conv_rhs => rw [hExp, zpow_natCast]
    ring
  · have hExp : e = (e.toNat : ℤ) := by omega
    rw [Nat.shiftLeft_eq]
    push_cast
    conv_rhs => rw [hExp, zpow_neg, zpow_natCast]
    rw [div_mul_eq_div_div, div_eq_mul_inv (num / den : ℚ)]

/-- The logarithms bound a ratio up to a factor of two on either side. -/
theorem ratio_bounds (hNum : num ≠ 0) (hDen : den ≠ 0) :
    (2 : ℚ) ^ ((num.log2 : ℤ) - den.log2 - 1) ≤ num / den ∧
      (num : ℚ) / den < 2 ^ ((num.log2 : ℤ) - den.log2 + 1) := by
  have hDenQ : (0 : ℚ) < den := by exact_mod_cast Nat.pos_of_ne_zero hDen
  have hNumLow : (2 : ℚ) ^ (num.log2 : ℤ) ≤ num := by exact_mod_cast Nat.log2_self_le hNum
  have hNumHigh : (num : ℚ) < 2 ^ ((num.log2 : ℤ) + 1) := by exact_mod_cast Nat.lt_log2_self
  have hDenLow : (2 : ℚ) ^ (den.log2 : ℤ) ≤ den := by exact_mod_cast Nat.log2_self_le hDen
  have hDenHigh : (den : ℚ) < 2 ^ ((den.log2 : ℤ) + 1) := by exact_mod_cast Nat.lt_log2_self
  constructor
  · rw [le_div_iff₀ hDenQ]
    calc (2 : ℚ) ^ ((num.log2 : ℤ) - den.log2 - 1) * den
        ≤ 2 ^ ((num.log2 : ℤ) - den.log2 - 1) * 2 ^ ((den.log2 : ℤ) + 1) :=
          mul_le_mul_of_nonneg_left hDenHigh.le (two_zpow_pos _).le
      _ = 2 ^ (num.log2 : ℤ) := by
          rw [← zpow_add₀ two_ne_zero]
          congr 1
          ring
      _ ≤ num := hNumLow
  · rw [div_lt_iff₀ hDenQ]
    calc (num : ℚ) < 2 ^ ((num.log2 : ℤ) + 1) := hNumHigh
      _ = 2 ^ ((num.log2 : ℤ) - den.log2 + 1) * 2 ^ (den.log2 : ℤ) := by
          rw [← zpow_add₀ two_ne_zero]
          congr 1
          ring
      _ ≤ 2 ^ ((num.log2 : ℤ) - den.log2 + 1) * den :=
          mul_le_mul_of_nonneg_left hDenLow (two_zpow_pos _).le

/-- At its gauge a ratio has exactly 53 bits before the point. -/
theorem gauge_bounds (hNum : num ≠ 0) (hDen : den ≠ 0) :
    (2 : ℚ) ^ 52 ≤ num / den * 2 ^ (-gauge num den) ∧
      (num : ℚ) / den * 2 ^ (-gauge num den) < 2 ^ 53 := by
  obtain ⟨hLow, hHigh⟩ := ratio_bounds hNum hDen
  set e : ℤ := (num.log2 : ℤ) - den.log2 - 52 with he
  have hRatio := scaled_ratio num den e
  have hPos : (0 : ℚ) < (scaled num den e).2 := by
    exact_mod_cast scaled_den_pos num (Nat.pos_of_ne_zero hDen) e
  have hLow' : (2 : ℚ) ^ 51 ≤ num / den * 2 ^ (-e) := by
    calc (2 : ℚ) ^ 51 = 2 ^ ((num.log2 : ℤ) - den.log2 - 1) * 2 ^ (-e) := by
          rw [← zpow_add₀ two_ne_zero, he, ← zpow_natCast]
          congr 1
          push_cast
          ring
      _ ≤ num / den * 2 ^ (-e) := mul_le_mul_of_nonneg_right hLow (two_zpow_pos _).le
  have hHigh' : (num : ℚ) / den * 2 ^ (-e) < 2 ^ 53 := by
    calc (num : ℚ) / den * 2 ^ (-e) < 2 ^ ((num.log2 : ℤ) - den.log2 + 1) * 2 ^ (-e) :=
          mul_lt_mul_of_pos_right hHigh (two_zpow_pos _)
      _ = 2 ^ 53 := by
          rw [← zpow_add₀ two_ne_zero, he, ← zpow_natCast]
          congr 1
          push_cast
          ring
  have hGauge : gauge num den =
      if (scaled num den e).1 / (scaled num den e).2 < 2 ^ 52 then e - 1 else e := rfl
  have hSmall : (scaled num den e).1 / (scaled num den e).2 < 2 ^ 52 ↔
      (num : ℚ) / den * 2 ^ (-e) < 2 ^ 52 := by
    rw [← hRatio, div_lt_iff₀ hPos, Nat.div_lt_iff_lt_mul (by exact_mod_cast hPos)]
    exact_mod_cast Iff.rfl
  rw [hGauge]
  split_ifs with h
  · have hTwice : (2 : ℚ) ^ (-(e - 1)) = 2 ^ (-e) * 2 := by
      rw [show -(e - 1) = -e + 1 by ring, zpow_add_one₀ two_ne_zero]
    rw [hTwice, ← mul_assoc]
    have := hSmall.mp h
    constructor <;> linarith
  · exact ⟨not_lt.mp (mt hSmall.mpr h), hHigh'⟩

/-- The same bounds in natural numbers. -/
theorem scaled_gauge_bounds (hNum : num ≠ 0) (hDen : 0 < den) :
    2 ^ 52 * (scaled num den (gauge num den)).2 ≤ (scaled num den (gauge num den)).1 ∧
      (scaled num den (gauge num den)).1 < 2 ^ 53 * (scaled num den (gauge num den)).2 := by
  have hPos : (0 : ℚ) < (scaled num den (gauge num den)).2 := by
    exact_mod_cast scaled_den_pos num hDen _
  obtain ⟨hLow, hHigh⟩ := gauge_bounds hNum hDen.ne'
  rw [← scaled_ratio, le_div_iff₀ hPos] at hLow
  rw [← scaled_ratio, div_lt_iff₀ hPos] at hHigh
  exact ⟨by exact_mod_cast hLow, by exact_mod_cast hHigh⟩

/-- What the algorithm computes is the ratio rounded to nearest. -/
theorem rounds_round (num : ℕ) (hDen : 0 < den) (shift : ℤ) :
    Rounds (num / den * 2 ^ shift) (round num den shift).value := by
  by_cases hNum : num = 0
  · simpa [hNum, round, value] using rounds_zero
  obtain ⟨hLow, hHigh⟩ := scaled_gauge_bounds hNum hDen
  set e := gauge num den with he
  have hValue : (round num den shift).value =
      nearest (scaled num den e).1 (scaled num den e).2 * 2 ^ (e + shift) := by
    simp only [round, if_neg hNum, ← he, Nat.shiftLeft_eq, one_mul]
    split_ifs with hTop
    · rw [hTop, value, show e + 1 + shift = e + shift + 1 by ring, zpow_add_one₀ two_ne_zero]
      push_cast
      ring
    · rfl
  have hExact : (num : ℚ) / den * 2 ^ shift =
      (scaled num den e).1 / (scaled num den e).2 * 2 ^ (e + shift) := by
    rw [scaled_ratio, mul_assoc, ← zpow_add₀ two_ne_zero, neg_add_cancel_left]
  rw [hValue, hExact]
  exact rounds_nearest (scaled_den_pos num hDen e) hLow hHigh _

/-- What is computed of a ratio other than zero has its 53 bits. -/
theorem normal_round (hNum : num ≠ 0) (hDen : 0 < den) (shift : ℤ) :
    (round num den shift).Normal := by
  obtain ⟨hLow, hHigh⟩ := scaled_gauge_bounds hNum hDen
  obtain ⟨hMin, hMax⟩ := nearest_bounds (scaled_den_pos num hDen _) hLow hHigh
  simp only [round, if_neg hNum, Nat.shiftLeft_eq, one_mul]
  split_ifs with hTop
  · exact ⟨le_rfl, by norm_num⟩
  · exact ⟨hMin, lt_of_le_of_ne hMax hTop⟩

end Round

/-- Of two numbers with 53 bits the one with the greater exponent is greater. -/
theorem Normal.value_lt {x y : Binary64} (hx : x.Normal) (hy : y.Normal)
    (h : x.exponent < y.exponent) : x.value < y.value := by
  have hxHigh : (x.significand : ℚ) < 2 ^ 53 := by exact_mod_cast hx.2
  have hyLow : (2 : ℚ) ^ 52 ≤ y.significand := by exact_mod_cast hy.1
  calc x.value < 2 ^ 53 * 2 ^ x.exponent := mul_lt_mul_of_pos_right hxHigh (two_zpow_pos _)
    _ = 2 ^ 52 * (2 * 2 ^ x.exponent) := by ring
    _ ≤ 2 ^ 52 * 2 ^ y.exponent := mul_le_mul_of_nonneg_left (two_mul_zpow_le h) (by positivity)
    _ ≤ y.value := mul_le_mul_of_nonneg_right hyLow (two_zpow_pos _).le

/-- A number has one form with 53 bits. -/
theorem Normal.eq_of_value {x y : Binary64} (hx : x.Normal) (hy : y.Normal)
    (h : x.value = y.value) : x = y := by
  have hExponent : x.exponent = y.exponent := by
    rcases lt_trichotomy x.exponent y.exponent with hLt | hEq | hGt
    · exact absurd h (hx.value_lt hy hLt).ne
    · exact hEq
    · exact absurd h (hy.value_lt hx hGt).ne'
  have hSignificand : x.significand = y.significand := by
    rw [value, value, hExponent, mul_left_inj' (two_zpow_pos _).ne'] at h
    exact_mod_cast h
  cases x
  cases y
  simp_all

theorem normal_one : one.Normal := ⟨le_rfl, by decide⟩

/-- The lesser of two normal numbers is normal. -/
theorem Normal.lesser {x y : Binary64} (hx : x.Normal) (hy : y.Normal) :
    (x.lesser y).Normal := by
  unfold Binary64.lesser
  split_ifs
  · exact hx
  · exact hy

/-- A quotient of whole numbers is the exact one, rounded. -/
theorem rounds_ofRatio (num : ℕ) {den : ℕ} (hDen : 0 < den) :
    Rounds (num / den) (ofRatio num den).value := by
  have h := rounds_round num hDen 0
  rwa [zpow_zero, mul_one] at h

/-- A product is the exact one, rounded. -/
theorem rounds_mul (x y : Binary64) : Rounds (x.value * y.value) (x.mul y).value := by
  have h := rounds_round (x.significand * y.significand) one_pos (x.exponent + y.exponent)
  have hExact : x.value * y.value =
      ((x.significand * y.significand : ℕ) : ℚ) / (1 : ℕ) * 2 ^ (x.exponent + y.exponent) := by
    rw [value, value, zpow_add₀ two_ne_zero]
    push_cast
    ring
  rw [hExact]
  exact h

section NatCast

/-- Bits after the point of the representable numbers just below `n`. Below a
power of two they lie twice as close as above. -/
def spacingBits (n : ℕ) : ℕ := if n = 2 ^ n.log2 then 53 - n.log2 else 52 - n.log2

variable {n : ℕ} (hPos : n ≠ 0)

include hPos

theorem shifted_spacingBits (h : n < 2 ^ 53) :
    2 ^ 52 < n * 2 ^ spacingBits n ∧ n * 2 ^ spacingBits n ≤ 2 ^ 53 := by
  have hLow := Nat.log2_self_le hPos
  have hHigh : n < 2 ^ (n.log2 + 1) := Nat.lt_log2_self
  have hLog : n.log2 < 53 := (Nat.log2_lt hPos).mpr h
  unfold spacingBits
  split_ifs with hPower
  · have hTop : n * 2 ^ (53 - n.log2) = 2 ^ 53 := by
      calc n * 2 ^ (53 - n.log2) = 2 ^ n.log2 * 2 ^ (53 - n.log2) := by rw [← hPower]
        _ = 2 ^ 53 := by rw [← pow_add]; congr 1; omega
    rw [hTop]
    norm_num
  · constructor
    · calc 2 ^ 52 = 2 ^ n.log2 * 2 ^ (52 - n.log2) := by rw [← pow_add]; congr 1; omega
        _ < n * 2 ^ (52 - n.log2) :=
          Nat.mul_lt_mul_of_pos_right (lt_of_le_of_ne hLow (Ne.symm hPower)) (by positivity)
    · calc n * 2 ^ (52 - n.log2) ≤ 2 ^ (n.log2 + 1) * 2 ^ (52 - n.log2) :=
            Nat.mul_le_mul_right _ hHigh.le
        _ = 2 ^ 53 := by rw [← pow_add]; congr 1; omega

omit hPos in
theorem eq_shifted_spacingBits :
    (n : ℚ) = (n * 2 ^ spacingBits n : ℕ) * 2 ^ (-(spacingBits n : ℤ)) := by
  push_cast
  rw [mul_assoc, ← zpow_natCast, ← zpow_add₀ two_ne_zero, add_neg_cancel, zpow_zero, mul_one]

omit hPos in
/-- Natural numbers of at most 53 bits are representable. -/
theorem representable_natCast (h : n < 2 ^ 53) : Representable n := by
  by_cases hZero : n = 0
  · exact Or.inl (by exact_mod_cast hZero)
  obtain ⟨hLow, hHigh⟩ := shifted_spacingBits hZero h
  exact Or.inr ⟨_, _, hLow, hHigh, eq_shifted_spacingBits⟩

/-- What is rounded reaches a natural number of at most 52 bits if at most half
the gap below that number is missing. -/
theorem Rounds.natCast_le_iff {q v : ℚ} (hRounds : Rounds q v) (h : n < 2 ^ 52) :
    (n : ℚ) ≤ v ↔ n - q ≤ 2 ^ (-(spacingBits n : ℤ)) / 2 := by
  obtain ⟨hLow, hHigh⟩ := shifted_spacingBits hPos (by omega)
  have hLog : n.log2 < 52 := (Nat.log2_lt hPos).mpr h
  have hEven : Even (n * 2 ^ spacingBits n) := by
    apply Even.mul_left
    apply (even_two).pow_of_ne_zero
    unfold spacingBits
    split_ifs <;> omega
  conv_lhs => rw [eq_shifted_spacingBits (n := n)]
  rw [hRounds.le_iff hLow hHigh, Reaches, if_pos hEven, sub_mul, ← eq_shifted_spacingBits]
  constructor <;> intro h <;> linarith

end NatCast

/-- Numbers below `2 ^ 53` are represented exactly. -/
theorem value_ofNat {n : ℕ} (h : n < 2 ^ 53) : (ofNat n).value = n := by
  have hRounds : Rounds (n : ℚ) (ofNat n).value := by
    have h := rounds_round n one_pos 0
    rwa [zpow_zero, mul_one, Nat.cast_one, div_one] at h
  exact hRounds.unique (representable_natCast h).rounds_self

theorem value_one : one.value = 1 := by
  norm_num [one, value, Nat.shiftLeft_eq]

/-- A significand moved down to a smaller exponent stands for the same number. -/
theorem shifted_value (x : Binary64) {e : ℤ} (he : e ≤ x.exponent) :
    ((x.significand <<< (x.exponent - e).toNat : ℕ) : ℚ) * 2 ^ e = x.value := by
  have hExp : ((x.exponent - e).toNat : ℤ) = x.exponent - e := by omega
  rw [Nat.shiftLeft_eq, value]
  push_cast
  rw [mul_assoc, ← zpow_natCast, ← zpow_add₀ two_ne_zero, hExp, sub_add_cancel]

/-- Numbers are compared as their values. -/
theorem le_iff_value_le (x y : Binary64) : x.le y ↔ x.value ≤ y.value := by
  rw [← shifted_value x (min_le_left x.exponent y.exponent),
    ← shifted_value y (min_le_right x.exponent y.exponent),
    mul_le_mul_iff_left₀ (two_zpow_pos _), Nat.cast_le]
  simp [le]

/-- Rounding before or after the choice of the lesser number is the same. -/
theorem Rounds.lesser {q q' : ℚ} {x y : Binary64} (hx : Rounds q x.value)
    (hy : Rounds q' y.value) : Rounds (min q q') (x.lesser y).value := by
  have hLesser : (x.lesser y).value = min x.value y.value := by
    unfold Binary64.lesser
    by_cases h : x.le y
    · rw [if_pos h, min_eq_left ((le_iff_value_le x y).mp h)]
    · rw [if_neg h, min_eq_right (le_of_not_ge (mt (le_iff_value_le x y).mpr h))]
  rw [hLesser]
  rcases le_total q q' with h | h
  · rwa [min_eq_left h, min_eq_left (hx.mono hy h)]
  · rwa [min_eq_right h, min_eq_right (hy.mono hx h)]

/-- The floor of a number is the greatest whole number that is not above it. -/
theorem le_floor_iff (x : Binary64) (n : ℕ) : n ≤ x.floor ↔ (n : ℚ) ≤ x.value := by
  unfold floor
  split_ifs with h
  · rw [← shifted_value x h, sub_zero, zpow_zero, mul_one, Nat.cast_le]
  · have hExp : x.exponent = -((-x.exponent).toNat : ℤ) := by omega
    rw [Nat.shiftRight_eq_div_pow, Nat.le_div_iff_mul_le (by positivity), value]
    conv_rhs => rw [hExp, zpow_neg, zpow_natCast, ← div_eq_mul_inv]
    rw [le_div_iff₀ (by positivity)]
    exact_mod_cast Iff.rfl

end Iconsmith.Binary64
