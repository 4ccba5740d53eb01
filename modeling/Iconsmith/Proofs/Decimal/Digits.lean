import Iconsmith.Decimal

/-! Digits and the numbers they stand for, and written numbers: an optional plus
sign and digits, of which the first may be zeros. -/
namespace Iconsmith.Decimal

/-- Just the ten digits have a value. -/
theorem isSome_digit? (c : Char) : (digit? c).isSome = true ↔ '0' ≤ c ∧ c ≤ '9' := by
  unfold digit?
  split
  · next h => exact ⟨fun _ => h, fun _ => rfl⟩
  · next h => exact ⟨nofun, fun h' => absurd h' h⟩

/-- Digits are read from left to right, those in front first. -/
theorem digitsFrom?_append (acc : Nat) (xs ys : List Char) :
    digitsFrom? acc (xs ++ ys) = (digitsFrom? acc xs).bind fun n => digitsFrom? n ys := by
  induction xs generalizing acc with
  | nil => rfl
  | cons c xs ih =>
      simp only [List.cons_append, digitsFrom?]
      cases digit? c with
      | none => rfl
      | some d => exact ih _

/-- More digits do not make a number smaller. -/
theorem le_of_digitsFrom? {acc n : Nat} {ds : List Char} (h : digitsFrom? acc ds = some n) :
    acc ≤ n := by
  induction ds generalizing acc with
  | nil => exact Nat.le_of_eq (Option.some.inj h)
  | cons c ds ih =>
      obtain ⟨d, -, hMore⟩ := Option.bind_eq_some_iff.mp h
      have := ih hMore
      omega

/-- Digits always stand for a number. -/
theorem exists_digitsFrom? (acc : Nat) {ds : List Char} (h : ∀ c ∈ ds, '0' ≤ c ∧ c ≤ '9') :
    ∃ n, digitsFrom? acc ds = some n := by
  induction ds generalizing acc with
  | nil => exact ⟨acc, rfl⟩
  | cons c ds ih =>
      obtain ⟨d, hd⟩ := Option.isSome_iff_exists.mp ((isSome_digit? c).mpr (h c (by simp)))
      obtain ⟨n, hn⟩ := ih (acc * 10 + d) fun c hc => h c (by simp [hc])
      exact ⟨n, by simp [digitsFrom?, hd, hn]⟩

/-! ### The digits of a number -/

/-- A digit stands for its value. -/
theorem digit?_ofNat {d : Nat} (h : d < 10) : digit? (Char.ofNat (48 + d)) = some d :=
  (by decide : ∀ d : Fin 10, digit? (Char.ofNat (48 + d)) = some d.val) ⟨d, h⟩

theorem ofNat_ne_zero {d : Nat} (h : d < 10) (hPositive : 0 < d) : Char.ofNat (48 + d) ≠ '0' :=
  (by decide : ∀ d : Fin 10, 0 < d.val → Char.ofNat (48 + d) ≠ '0') ⟨d, h⟩ hPositive

theorem digits_of_lt {n : Nat} (h : n < 10) : digits n = [Char.ofNat (48 + n)] := by
  rw [digits, dif_pos h]

/-- A number of several digits has those of its tenth, and one more. -/
theorem digits_of_le {n : Nat} (h : 10 ≤ n) :
    digits n = digits (n / 10) ++ [Char.ofNat (48 + n % 10)] := by
  rw [digits, dif_neg (by omega)]

/-- The digits of a number stand for it. -/
theorem digitsFrom?_digits (n : Nat) : digitsFrom? 0 (digits n) = some n := by
  induction n using Nat.strongRecOn with
  | ind n ih =>
      rcases Nat.lt_or_ge n 10 with h | h
      · simp [digits_of_lt h, digitsFrom?, digit?_ofNat h]
      · have hLast : digitsFrom? (n / 10) [Char.ofNat (48 + n % 10)] =
            some (n / 10 * 10 + n % 10) := by
          simp [digitsFrom?, digit?_ofNat (Nat.mod_lt n (by decide : 0 < 10))]
        rw [digits_of_le h, digitsFrom?_append, ih (n / 10) (by omega), Option.bind_some, hLast,
          Nat.div_add_mod']

/-- Only digits are written. -/
theorem isDigit_of_mem_digits {n : Nat} {c : Char} (h : c ∈ digits n) : '0' ≤ c ∧ c ≤ '9' := by
  induction n using Nat.strongRecOn with
  | ind n ih =>
      have hOne (d : Nat) (hd : d < 10) : '0' ≤ Char.ofNat (48 + d) ∧ Char.ofNat (48 + d) ≤ '9' :=
        (isSome_digit? _).mp (by simp [digit?_ofNat hd])
      rcases Nat.lt_or_ge n 10 with hn | hn
      · rw [digits_of_lt hn, List.mem_singleton] at h
        exact h ▸ hOne n hn
      · rw [digits_of_le hn, List.mem_append, List.mem_singleton] at h
        rcases h with h | rfl
        · exact ih (n / 10) (by omega) h
        · exact hOne _ (Nat.mod_lt n (by decide))

/-- The digits of a positive number do not start with a zero. -/
theorem digits_eq_cons {n : Nat} (h : 0 < n) : ∃ c ds, digits n = c :: ds ∧ c ≠ '0' := by
  induction n using Nat.strongRecOn with
  | ind n ih =>
      rcases Nat.lt_or_ge n 10 with hn | hn
      · exact ⟨_, [], digits_of_lt hn, ofNat_ne_zero hn h⟩
      · obtain ⟨c, ds, hDigits, hc⟩ := ih (n / 10) (by omega) (by omega)
        exact ⟨c, ds ++ [_], by rw [digits_of_le hn, hDigits]; rfl, hc⟩

/-! ### Written numbers -/

/-- The number that digits stand for, from left to right. -/
def value (ds : List Char) : Nat := ds.foldl (fun n c => n * 10 + (c.toNat - '0'.toNat)) 0

/-- An optional plus sign and one or more digits, which stand for a number. -/
def Numeral (s : List Char) (n : Nat) : Prop :=
  ∃ ds, (s = ds ∨ s = '+' :: ds) ∧ ds ≠ [] ∧ (∀ c ∈ ds, '0' ≤ c ∧ c ≤ '9') ∧ value ds = n

variable {s ds : List Char} {n acc : Nat}

/-- Digits are read as a number if all of them are digits, and then as the one that they stand
for. -/
theorem digitsFrom?_eq_some :
    digitsFrom? acc ds = some n ↔ (∀ c ∈ ds, '0' ≤ c ∧ c ≤ '9') ∧
      ds.foldl (fun n c => n * 10 + (c.toNat - '0'.toNat)) acc = n := by
  induction ds generalizing acc with
  | nil => simp [digitsFrom?]
  | cons c ds ih =>
      by_cases hc : '0' ≤ c ∧ c ≤ '9'
      · simp [digitsFrom?, digit?, hc, ih]
      · simp [digitsFrom?, digit?, hc]

theorem ofDigits?_eq_some :
    ofDigits? s = some n ↔ s ≠ [] ∧ (∀ c ∈ s, '0' ≤ c ∧ c ≤ '9') ∧ value s = n := by
  cases s with
  | nil => simp [ofDigits?]
  | cons c s => simp only [ofDigits?, digitsFrom?_eq_some, value, ne_eq, reduceCtorEq,
      not_false_eq_true, true_and]

theorem ofUnsigned?_eq_some : ofUnsigned? s = some n ↔ Numeral s n := by
  have hPlus : ¬('0' ≤ '+' ∧ '+' ≤ '9') := by decide
  unfold ofUnsigned?
  split
  · next rest =>
    rw [ofDigits?_eq_some]
    constructor
    · exact fun h => ⟨rest, .inr rfl, h⟩
    · rintro ⟨ds, rfl | hSigned, h⟩
      · exact absurd (h.2.1 '+' List.mem_cons_self) hPlus
      · rwa [(List.cons.inj hSigned).2]
  · next hUnsigned =>
    rw [ofDigits?_eq_some]
    constructor
    · exact fun h => ⟨s, .inl rfl, h⟩
    · rintro ⟨ds, rfl | hSigned, h⟩
      · exact h
      · exact absurd hSigned (hUnsigned ds)

/-- A number of 32 bits is read if it is written as one. -/
theorem ofUnsigned32?_eq_some {n : UInt32} : ofUnsigned32? s = some n ↔ Numeral s n.toNat := by
  simp only [ofUnsigned32?, Option.bind_eq_some_iff, ofUnsigned?_eq_some]
  constructor
  · rintro ⟨m, hNumeral, hm⟩
    split at hm
    · next hSmall =>
      obtain rfl := Option.some.inj hm
      rwa [Nat.toUInt32_eq, UInt32.toNat_ofNat_of_lt' hSmall]
    · exact nomatch hm
  · intro hNumeral
    exact ⟨n.toNat, hNumeral, by rw [if_pos n.toNat_lt_size, Nat.toUInt32_eq, UInt32.ofNat_toNat]⟩

theorem Numeral.ne_nil (h : Numeral s n) : s ≠ [] := by
  obtain ⟨ds, rfl | rfl, hSome, -⟩ := h
  · exact hSome
  · exact List.cons_ne_nil _ _

/-- A written number consists of digits, and perhaps a plus sign in front. -/
theorem Numeral.mem (h : Numeral s n) {c : Char} (hc : c ∈ s) : c = '+' ∨ '0' ≤ c ∧ c ≤ '9' := by
  obtain ⟨ds, rfl | rfl, -, hDigits, -⟩ := h
  · exact .inr (hDigits c hc)
  · rcases List.mem_cons.mp hc with rfl | hc
    · exact .inl rfl
    · exact .inr (hDigits c hc)

/-- The digits of a number are read as the number. -/
theorem ofDigits?_digits (n : Nat) : ofDigits? (digits n) = some n := by
  have hRead := digitsFrom?_digits n
  cases hDigits : digits n with
  | nil =>
      rw [digits] at hDigits
      split at hDigits <;> simp at hDigits
  | cons c ds => rwa [hDigits] at hRead

/-- A number is written by its own digits. -/
theorem numeral_digits (n : Nat) : Numeral (digits n) n :=
  ⟨digits n, .inl rfl, ofDigits?_eq_some.mp (ofDigits?_digits n)⟩

end Iconsmith.Decimal
