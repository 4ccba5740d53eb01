import Iconsmith.Proofs.Binary64.Rounding

/-! How far a chain of operations leads away from the exact result. Each rounding
adds at most one part in `2 ^ 52` of that result, so that parts are counted, and
whole parts of numbers that are close enough are the same or next to each other. -/
namespace Iconsmith

/-- Two numbers are the same or next to each other. -/
def Adjacent (m n : ℕ) : Prop := m ≤ n + 1 ∧ n ≤ m + 1

instance (m n : ℕ) : Decidable (Adjacent m n) := inferInstanceAs (Decidable (_ ∧ _))

/-- Numbers less than one apart have adjacent floors. -/
theorem adjacent_floor {p q : ℚ} (hp : 0 ≤ p) (hq : 0 ≤ q) (h : |p - q| < 1) :
    Adjacent ⌊p⌋₊ ⌊q⌋₊ := by
  obtain ⟨hLow, hHigh⟩ := abs_lt.mp h
  constructor
  · rw [← Nat.floor_add_one hq]
    exact Nat.floor_le_floor (by linarith)
  · rw [← Nat.floor_add_one hp]
    exact Nat.floor_le_floor (by linarith)

namespace Binary64

theorem value_nonneg (x : Binary64) : 0 ≤ x.value := by
  have := two_zpow_pos x.exponent
  unfold value
  positivity

/-- The floor is that of the value. -/
theorem floor_eq (x : Binary64) : x.floor = ⌊x.value⌋₊ :=
  eq_of_forall_le_iff fun n => by rw [le_floor_iff, Nat.le_floor_iff x.value_nonneg]

theorem value_half (x : Binary64) : x.half.value = x.value / 2 := by
  rw [half, value, value, zpow_sub_one₀ two_ne_zero]
  ring

theorem Representable.half {v : ℚ} (h : Representable v) : Representable (v / 2) := by
  rcases h with rfl | ⟨m, k, hLow, hHigh, rfl⟩
  · exact Or.inl (zero_div 2)
  · refine Or.inr ⟨m, k - 1, hLow, hHigh, ?_⟩
    rw [zpow_sub_one₀ two_ne_zero]
    ring

/-- A sum is the exact one, rounded. -/
theorem rounds_add (x y : Binary64) : Rounds (x.value + y.value) (x.add y).value := by
  set e := min x.exponent y.exponent with he
  have h := rounds_round (x.significand <<< (x.exponent - e).toNat +
    y.significand <<< (y.exponent - e).toNat) one_pos e
  have hExact : x.value + y.value = ((x.significand <<< (x.exponent - e).toNat +
      y.significand <<< (y.exponent - e).toNat : ℕ) : ℚ) / (1 : ℕ) * 2 ^ e := by
    rw [← shifted_value x (min_le_left x.exponent y.exponent),
      ← shifted_value y (min_le_right x.exponent y.exponent), ← he]
    push_cast
    ring
  rw [hExact]
  exact h

/-! ### One rounding -/

variable {q r v w : ℚ}

/-- A value that is rounded to less than a multiple is at least half a spacing below it. -/
theorem Rounds.le_of_lt (h : Rounds q v) {m : ℕ} {k : ℤ} (hLow : 2 ^ 52 < m) (hHigh : m ≤ 2 ^ 53)
    (hLt : v < m * 2 ^ k) : q ≤ ((m : ℚ) - 1 / 2) * 2 ^ k :=
  not_lt.mp fun hReached =>
    absurd ((h.le_iff hLow hHigh).mpr (reaches_of_lt hReached)) (not_le.mpr hLt)

/-- Only zero is rounded to zero. -/
theorem Rounds.eq_zero (h : Rounds q 0) (hq : 0 ≤ q) : q = 0 := by
  refine le_antisymm (not_lt.mp fun hPos => ?_) hq
  obtain ⟨n, hn⟩ := exists_pow_lt_of_lt_one (by positivity : 0 < q / 2 ^ 53)
    (by norm_num : (1 / 2 : ℚ) < 1)
  have hUnit := two_zpow_pos (-n)
  have hLe := h.le_of_lt (m := 2 ^ 53) (k := -n) (by norm_num) le_rfl (by positivity)
  rw [lt_div_iff₀ (by positivity), one_div, inv_pow, ← zpow_natCast (2 : ℚ) n, ← zpow_neg] at hn
  push_cast at hLe
  linarith

/-- Half a unit of the last of 53 bits is lost at most. -/
theorem Rounds.abs_sub_le (h : Rounds q v) (hq : 0 ≤ q) : |v - q| ≤ q / 2 ^ 53 := by
  rcases h.representable with rfl | ⟨m, k, hLow, hHigh, rfl⟩
  · simp [h.eq_zero hq]
  have hUnit := two_zpow_pos k
  have hMin : (2 : ℚ) ^ 52 + 1 ≤ m := by exact_mod_cast hLow
  have hBelow := ((h.le_iff hLow hHigh).mp le_rfl).le
  have hAbove : q - m * 2 ^ k ≤ m * 2 ^ k / 2 ^ 53 := by
    rcases hHigh.lt_or_eq with hLt | rfl
    · have hNext := h.le_of_lt (m := m + 1) (k := k) (by omega) hLt (by push_cast; linarith)
      push_cast at hNext
      nlinarith
    · -- the next number has one bit fewer after the point
      have hTwice : (2 : ℚ) ^ (k + 1) = 2 * 2 ^ k := by rw [zpow_add_one₀ two_ne_zero, mul_comm]
      have hNext := h.le_of_lt (m := 2 ^ 52 + 1) (k := k + 1) (by norm_num) (by norm_num)
        (by rw [hTwice]; push_cast; linarith)
      rw [hTwice] at hNext
      push_cast at hNext ⊢
      linarith
  rw [abs_le]
  constructor
  · rcases le_total q (m * 2 ^ k) with hDown | hUp
    · have : (0 : ℚ) ≤ q / 2 ^ 53 := by positivity
      linarith
    · linarith
  · nlinarith

/-! ### Chains of operations -/

/-- The number `v` differs from `q` by at most `k` parts in `2 ^ 52` of `q`. -/
def Off (k : ℕ) (q v : ℚ) : Prop := |v - q| ≤ k * (q / 2 ^ 52)

theorem off_self (q : ℚ) : Off 0 q q := by simp [Off]

section Chain

variable {k l : ℕ}

theorem Off.mono (h : Off k q v) (hq : 0 ≤ q) (hLe : k ≤ l) : Off l q v := by
  have hParts : (k : ℚ) ≤ l := by exact_mod_cast hLe
  exact h.trans (mul_le_mul_of_nonneg_right hParts (by positivity))

/-- As many parts as there are make up the whole. -/
theorem parts_le (hq : 0 ≤ q) (hk : k ≤ 2 ^ 52) : k * (q / 2 ^ 52) ≤ q := by
  have hParts : (k : ℚ) ≤ 2 ^ 52 := by exact_mod_cast hk
  calc (k : ℚ) * (q / 2 ^ 52) ≤ 2 ^ 52 * (q / 2 ^ 52) :=
        mul_le_mul_of_nonneg_right hParts (by positivity)
    _ = q := by ring

theorem Off.nonneg (h : Off k q v) (hq : 0 ≤ q) (hk : k ≤ 2 ^ 52) : 0 ≤ v := by
  have hWhole := parts_le hq hk
  have hLow := (abs_le.mp h).1
  linarith

/-- A rounding adds one part, as long as the parts do not make up more than the whole. -/
theorem Off.rounds (h : Off k q r) (hRounds : Rounds r v) (hq : 0 ≤ q) (hk : k ≤ 2 ^ 52) :
    Off (k + 1) q v := by
  have hTwice : r ≤ 2 * q := by
    have hWhole := parts_le hq hk
    have hHigh := (abs_le.mp h).2
    linarith
  have hLast := hRounds.abs_sub_le (h.nonneg hq hk)
  calc |v - q| ≤ |v - r| + |r - q| := abs_sub_le v r q
    _ ≤ r / 2 ^ 53 + k * (q / 2 ^ 52) := add_le_add hLast h
    _ ≤ q / 2 ^ 52 + k * (q / 2 ^ 52) := by linarith
    _ = (k + 1 : ℕ) * (q / 2 ^ 52) := by push_cast; ring

/-- Sums of terms within a budget are within it, before they are rounded. -/
theorem Off.add (h : Off k q v) (h' : Off k r w) : Off k (q + r) (v + w) := by
  calc |v + w - (q + r)| = |(v - q) + (w - r)| := by ring_nf
    _ ≤ |v - q| + |w - r| := abs_add_le _ _
    _ ≤ k * (q / 2 ^ 52) + k * (r / 2 ^ 52) := add_le_add h h'
    _ = k * ((q + r) / 2 ^ 52) := by ring

/-- An exact factor keeps the parts. -/
theorem Off.scale (h : Off k q v) (hr : 0 ≤ r) : Off k (r * q) (r * v) := by
  calc |r * v - r * q| = r * |v - q| := by rw [← mul_sub, abs_mul, abs_of_nonneg hr]
    _ ≤ r * (k * (q / 2 ^ 52)) := mul_le_mul_of_nonneg_left h hr
    _ = k * (r * q / 2 ^ 52) := by ring

/-- If the parts do not make up a unit, whole parts differ by one at most. -/
theorem Off.adjacent_floor (h : Off k q v) (hq : 0 ≤ q) (hv : 0 ≤ v)
    (hParts : k * q < 2 ^ 52) : Adjacent ⌊v⌋₊ ⌊q⌋₊ := by
  refine Iconsmith.adjacent_floor hv hq (h.trans_lt ?_)
  rw [← mul_div_assoc, div_lt_one (by positivity)]
  exact hParts

end Chain

end Binary64
end Iconsmith
