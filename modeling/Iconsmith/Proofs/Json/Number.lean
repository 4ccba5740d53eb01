import Iconsmith.Proofs.Decimal.Digits
import Iconsmith.Proofs.Json.Unambiguity

/-! Numbers are skipped as the grammar spells them, and one that is read as a
natural number has neither sign nor point nor exponent. -/
namespace Iconsmith.Json

/-! ### Digits and signs -/

theorem isSome_digit? (c : Char) : (Decimal.digit? c).isSome = true ↔ IsDigit c :=
  Decimal.isSome_digit? c

theorem isNone_digit? (c : Char) : (Decimal.digit? c).isNone = true ↔ ¬IsDigit c := by
  rw [← isSome_digit?, Option.isNone_iff_eq_none, Option.not_isSome_iff_eq_none]

theorem noDigit_cons {c : Char} {t : List Char} : NoDigit (c :: t) ↔ ¬IsDigit c :=
  ⟨fun h => h c t rfl, fun h _ _ hEq => (List.cons.inj hEq).1 ▸ h⟩

theorem digits_iff {ds s r : List Char} : Digits ds s r ↔ ds ≠ [] ∧ readDigits s = (ds, r) := by
  refine ⟨fun h => ⟨h.ne_nil, h.readDigits_eq⟩, fun ⟨hNe, h⟩ => ?_⟩
  obtain ⟨hDigits, hEq, hRest⟩ := readDigits_spec s
  rw [h] at hDigits hEq hRest
  exact ⟨hNe, hDigits, hEq, hRest⟩

theorem readDigits_cons {c : Char} (hc : IsDigit c) (s : List Char) :
    readDigits (c :: s) = (c :: (readDigits s).1, (readDigits s).2) := by
  simp [readDigits, List.span_eq_takeWhile_dropWhile, (isDigit_iff c).mpr hc]

theorem digits_cons_iff {c : Char} {ds s r : List Char} :
    Digits (c :: ds) (c :: s) r ↔ IsDigit c ∧ readDigits s = (ds, r) := by
  rw [digits_iff]
  constructor
  · rintro ⟨-, h⟩
    have hc := (digits_iff.mpr ⟨List.cons_ne_nil c ds, h⟩).isDigit c (by simp)
    rw [readDigits_cons hc] at h
    simp only [Prod.mk.injEq, List.cons.injEq, true_and] at h
    exact ⟨hc, Prod.ext h.1 h.2⟩
  · rintro ⟨hc, h⟩
    exact ⟨List.cons_ne_nil c ds, by rw [readDigits_cons hc, h]⟩

/-- There is a digit if some digits come next. -/
theorem exists_digits_iff {s r : List Char} :
    (∃ ds, Digits ds s r) ↔ ∃ c t, s = c :: t ∧ IsDigit c ∧ skipDigits t = r := by
  constructor
  · rintro ⟨ds, h⟩
    obtain ⟨c, t, rfl, hc⟩ := h.exists_cons
    exact ⟨c, t, rfl, hc, by
      simpa [skipDigits, readDigits_cons hc] using congrArg Prod.snd h.readDigits_eq⟩
  · rintro ⟨c, t, rfl, hc, rfl⟩
    exact ⟨_, digits_cons_iff.mpr ⟨hc, rfl⟩⟩

/-- A sign is dropped if there is one. -/
theorem exists_sign_iff {s t : List Char} : (∃ g, Sign g s t) ↔ skipSign s = t := by
  constructor
  · rintro ⟨g, hSign⟩
    cases hSign with
    | none hPlus hMinus =>
        unfold skipSign
        split
        · exact absurd rfl hPlus
        · exact absurd rfl hMinus
        · rfl
    | plus => rfl
    | minus => rfl
  · rintro rfl
    unfold skipSign
    split
    · exact ⟨_, .plus⟩
    · exact ⟨_, .minus⟩
    · next hPlus hMinus =>
        refine ⟨_, .none (fun h => ?_) fun h => ?_⟩
        · obtain ⟨t, rfl⟩ := List.head?_eq_some_iff.mp h
          exact hPlus t rfl
        · obtain ⟨t, rfl⟩ := List.head?_eq_some_iff.mp h
          exact hMinus t rfl

/-! ### Skipping -/

/-- An exponent is skipped with its sign and its digits. -/
theorem skipExponent_eq_ok {s r : List Char} :
    skipExponent s = .ok r ↔ ∃ g ds t, Sign g s t ∧ Digits ds t r := by
  have hRegroup : (∃ g ds t, Sign g s t ∧ Digits ds t r) ↔ ∃ ds, Digits ds (skipSign s) r := by
    refine ⟨fun ⟨g, ds, t, hSign, h⟩ => ⟨ds, exists_sign_iff.mp ⟨g, hSign⟩ ▸ h⟩, fun ⟨ds, h⟩ => ?_⟩
    obtain ⟨g, hSign⟩ := exists_sign_iff.mpr (rfl : skipSign s = skipSign s)
    exact ⟨g, ds, _, hSign, h⟩
  rw [hRegroup, exists_digits_iff]
  unfold skipExponent
  split
  · next hNil => simp [hNil]
  · next c t hCons =>
      split
      · next hc => simp [hCons, (isSome_digit? c).mp hc]
      · next hc => simp [hCons, mt (isSome_digit? c).mpr hc]

/-- Where no exponent stands none is skipped. -/
theorem skipExponentOr_eq_ok {s r : List Char} :
    skipExponentOr s = .ok r ↔ ∃ e, Exponent e s r := by
  unfold skipExponentOr
  split
  · rw [skipExponent_eq_ok]
    constructor
    · rintro ⟨g, ds, t, hSign, h⟩
      exact ⟨_, .digits (.inl rfl) hSign h⟩
    · rintro ⟨e, h⟩
      cases h with
      | none hLower _ => exact absurd rfl hLower
      | digits _ hSign h => exact ⟨_, _, _, hSign, h⟩
  · rw [skipExponent_eq_ok]
    constructor
    · rintro ⟨g, ds, t, hSign, h⟩
      exact ⟨_, .digits (.inr rfl) hSign h⟩
    · rintro ⟨e, h⟩
      cases h with
      | none _ hUpper => exact absurd rfl hUpper
      | digits _ hSign h => exact ⟨_, _, _, hSign, h⟩
  · next hLower hUpper =>
    constructor
    · rintro h
      obtain rfl := Except.ok.inj h
      exact ⟨[], .none (fun h => (List.head?_eq_some_iff.mp h).elim hLower)
        fun h => (List.head?_eq_some_iff.mp h).elim hUpper⟩
    · rintro ⟨e, h⟩
      cases h with
      | none _ _ => rfl
      | digits he _ _ =>
          rcases he with rfl | rfl
          · exact absurd rfl (hLower _)
          · exact absurd rfl (hUpper _)

/-- Behind the whole part come a fraction and an exponent, or neither. -/
theorem skipNumberTail_eq_ok {s r : List Char} :
    skipNumberTail s = .ok r ↔ ∃ f e t, Fraction f s t ∧ Exponent e t r := by
  unfold skipNumberTail
  split
  · next s =>
    split
    · next t hNone =>
      refine ⟨nofun, ?_⟩
      rintro ⟨f, e, t', hFraction, -⟩
      cases hFraction with
      | none h => exact absurd rfl h
      | digits h => exact absurd (congrArg Prod.fst (h.readDigits_eq.symm.trans hNone)) h.ne_nil
    · next ds t hNe hSome =>
      rw [skipExponentOr_eq_ok]
      constructor
      · rintro ⟨e, h⟩
        exact ⟨ds, e, t, .digits (digits_iff.mpr ⟨hNe, hSome⟩), h⟩
      · rintro ⟨f, e, t', hFraction, h⟩
        cases hFraction with
        | none hPoint => exact absurd rfl hPoint
        | digits hDigits =>
            obtain rfl := congrArg Prod.snd (hDigits.readDigits_eq.symm.trans hSome)
            exact ⟨e, h⟩
  · next hPoint =>
    rw [skipExponentOr_eq_ok]
    constructor
    · rintro ⟨e, h⟩
      exact ⟨[], e, s, .none fun h => (List.head?_eq_some_iff.mp h).elim hPoint, h⟩
    · rintro ⟨f, e, t, hFraction, h⟩
      cases hFraction with
      | none _ => exact ⟨e, h⟩
      | digits _ => exact absurd rfl (hPoint _)

/-- A number is a whole part with what may follow it. -/
theorem exists_unsigned_iff {s r : List Char} :
    (∃ w f e, Unsigned w f e s r) ↔ ∃ w t, Whole w s t ∧ skipNumberTail t = .ok r := by
  simp only [skipNumberTail_eq_ok]
  constructor
  · rintro ⟨w, f, e, ⟨t, u, hWhole, hFraction, hExponent⟩⟩
    exact ⟨w, t, hWhole, f, e, u, hFraction, hExponent⟩
  · rintro ⟨w, t, hWhole, f, e, u, hFraction, hExponent⟩
    exact ⟨w, f, e, ⟨t, u, hWhole, hFraction, hExponent⟩⟩

theorem whole_nil {w t : List Char} : ¬Whole w [] t := by
  intro h
  cases h with
  | digits _ h => exact nomatch h.exists_cons

/-- A zero at the start is the whole part, and no digit may follow it. -/
theorem whole_zero_iff {w s t : List Char} :
    Whole w ('0' :: s) t ↔ w = ['0'] ∧ t = s ∧ NoDigit s := by
  constructor
  · intro h
    cases h with
    | zero h => exact ⟨rfl, rfl, h⟩
    | digits hc h => exact absurd (List.cons.inj h.eq_append).1.symm hc
  · rintro ⟨rfl, rfl, h⟩
    exact .zero h

/-- Any other digit starts a row of digits. -/
theorem whole_cons_iff {c : Char} (hc : c ≠ '0') {w s t : List Char} :
    Whole w (c :: s) t ↔ IsDigit c ∧ readDigits (c :: s) = (w, t) := by
  constructor
  · intro h
    cases h with
    | zero _ => exact absurd rfl hc
    | digits _ h =>
        obtain rfl := (List.cons.inj h.eq_append).1
        exact ⟨h.isDigit c (by simp), h.readDigits_eq⟩
  · rintro ⟨hDigit, h⟩
    have hw : w = c :: (readDigits s).1 := by
      simpa [readDigits_cons hDigit] using (congrArg Prod.fst h).symm
    rw [hw]
    exact .digits hc (digits_iff.mpr ⟨by simp, hw ▸ h⟩)

/-- Skipping a number follows its spelling. -/
theorem skipNumber_eq_ok {s r : List Char} :
    skipNumber s = .ok r ↔ ∃ w f e, Unsigned w f e s r := by
  rw [exists_unsigned_iff]
  cases s with
  | nil => simp [skipNumber, whole_nil]
  | cons c s =>
      by_cases hc : c = '0'
      · subst hc
        simp only [skipNumber, whole_zero_iff]
        cases s with
        | nil => simp [NoDigit, skipNumberTail, skipExponentOr]
        | cons d s =>
            simp only [noDigit_cons, ← isSome_digit?]
            split
            · next hd => simp [hd]
            · next hd => simp [hd]
      · simp only [skipNumber, whole_cons_iff hc]
        split
        · next hNone => simp [(isNone_digit? c).mp hNone]
        · next hSome => simp [not_not.mp (mt (isNone_digit? c).mpr hSome), skipDigits,
            readDigits_cons, Prod.ext_iff]

/-! ### Natural numbers -/

/-- A number that is computed as a fraction is not a natural number. -/
theorem realOf_ne_natural {negative : Bool} {n m : Nat} {exponent : Int} {s r : List Char} :
    realOf negative n exponent s ≠ .ok (.natural m, r) := by
  unfold realOf
  split <;> simp

/-- A number with an exponent is not a natural number, even if its value is one. -/
theorem readExponent_ne_natural {negative : Bool} {n m : Nat} {exponent : Int} {s r : List Char} :
    readExponent negative n exponent s ≠ .ok (.natural m, r) := by
  unfold readExponent
  split
  · simp
  · split
    · simp
    · simp only
      split
      · split <;> simp
      · exact realOf_ne_natural

theorem readFraction_ne_natural {negative : Bool} {n m : Nat} {exponent : Int} {s r : List Char} :
    readFraction negative n exponent s ≠ .ok (.natural m, r) := by
  simp only [readFraction]
  split
  · simp
  · unfold readExponentOr
    split
    · exact readExponent_ne_natural
    · exact readExponent_ne_natural
    · exact realOf_ne_natural

/-- A number ends here without a point and without an exponent. -/
structure IntegerEnd (r : List Char) : Prop where
  point : r.head? ≠ some '.'
  lower : r.head? ≠ some 'e'
  upper : r.head? ≠ some 'E'

/-- A number without fraction and exponent ends with its whole part. -/
theorem unsigned_integer_iff {w s r : List Char} :
    Unsigned w [] [] s r ↔ Whole w s r ∧ IntegerEnd r := by
  constructor
  · rintro ⟨t, u, hWhole, hFraction, hExponent⟩
    cases hFraction with
    | digits h => exact absurd rfl h.ne_nil
    | none hPoint =>
        generalize hNone : ([] : List Char) = e at hExponent
        cases hExponent with
        | none hLower hUpper => exact ⟨hWhole, hPoint, hLower, hUpper⟩
        | digits _ _ h => exact absurd (List.append_eq_nil_iff.mp hNone.symm).2 h.ne_nil
  · rintro ⟨hWhole, hPoint, hLower, hUpper⟩
    exact ⟨r, r, hWhole, .none hPoint, .none hLower hUpper⟩

/-- What is read as a natural number has no sign, no digit too many, and nothing of a number
behind it. -/
theorem readNumberTail_eq_natural {negative : Bool} {n m left : Nat} {s r : List Char} :
    readNumberTail negative n left s = .ok (.natural m, r) ↔
      negative = false ∧ left = 0 ∧ n = m ∧ s = r ∧ IntegerEnd s := by
  unfold readNumberTail
  split
  · exact ⟨fun h => absurd h readFraction_ne_natural, fun h => absurd rfl h.2.2.2.2.point⟩
  · exact ⟨fun h => absurd h readExponent_ne_natural, fun h => absurd rfl h.2.2.2.2.lower⟩
  · exact ⟨fun h => absurd h readExponent_ne_natural, fun h => absurd rfl h.2.2.2.2.upper⟩
  · next hPoint hLower hUpper =>
    have hEnd : IntegerEnd s :=
      ⟨fun h => (List.head?_eq_some_iff.mp h).elim hPoint,
        fun h => (List.head?_eq_some_iff.mp h).elim hLower,
        fun h => (List.head?_eq_some_iff.mp h).elim hUpper⟩
    split
    · next hLeft => exact ⟨fun h => absurd h realOf_ne_natural, fun h => absurd h.2.1 hLeft⟩
    · next hLeft =>
      cases negative with
      | false => simp [hEnd, not_not.mp hLeft]
      | true => simp; split <;> simp

/-- Digits are taken as long as the number stays exact. If some are left out,
the number of all of them is not exact. -/
theorem takeExact_spec {n taken n' taken' left : Nat} {s rest : List Char} (hExact : n ≤ maxExact)
    (h : takeExact n taken s = (n', taken', left, rest)) :
    rest = (readDigits s).2 ∧ ∃ m, Decimal.digitsFrom? n (readDigits s).1 = some m ∧
      (left = 0 ∧ m = n' ∧ m ≤ maxExact ∨ left ≠ 0 ∧ maxExact < m) := by
  -- On the text, for any number so far; once a digit is left out all others are.
  induction s generalizing n taken with
  | nil =>
      obtain ⟨rfl, rfl, rfl, rfl⟩ := by simpa [takeExact] using h
      exact ⟨rfl, n, rfl, .inl ⟨rfl, rfl, hExact⟩⟩
  | cons c s ih =>
      cases hDigit : Decimal.digit? c with
      | none =>
          have hc : ¬IsDigit c := (isNone_digit? c).mp (by simp [hDigit])
          have hNone : readDigits ([] ++ c :: s) = ([], c :: s) :=
            readDigits_append (by simp) (noDigit_cons.mpr hc)
          rw [List.nil_append] at hNone
          obtain ⟨rfl, rfl, rfl, rfl⟩ := by simpa [takeExact, hDigit] using h
          rw [hNone]
          exact ⟨rfl, n, rfl, .inl ⟨rfl, rfl, hExact⟩⟩
      | some d =>
          have hc : IsDigit c := (isSome_digit? c).mp (by simp [hDigit])
          have hDigits : ∀ b ∈ (readDigits (c :: s)).1, IsDigit b := (readDigits_spec (c :: s)).1
          by_cases hNext : n * 10 + d ≤ maxExact
          · obtain ⟨hRest, m, hm, hCases⟩ := ih hNext (by simpa [takeExact, hDigit, hNext] using h)
            rw [readDigits_cons hc]
            exact ⟨hRest, m, by simp [Decimal.digitsFrom?, hDigit, hm], hCases⟩
          · obtain ⟨rfl, rfl, rfl, rfl⟩ := by simpa [takeExact, hDigit, hNext] using h
            obtain ⟨m, hm⟩ := Decimal.exists_digitsFrom? n hDigits
            have hAll := hm
            rw [readDigits_cons hc] at hm
            have hLarge : n * 10 + d ≤ m :=
              Decimal.le_of_digitsFrom? (by simpa [Decimal.digitsFrom?, hDigit] using hm)
            exact ⟨rfl, m, hAll, .inr ⟨by simp [readDigits_cons hc], by omega⟩⟩

/-- Behind a zero the whole part has ended. -/
theorem readNumber_zero_eq_natural {n : Nat} {s r : List Char} :
    readNumber false ('0' :: s) = .ok (.natural n, r) ↔
      NoDigit s ∧ n = 0 ∧ s = r ∧ IntegerEnd s := by
  have hTail : readNumber false ('0' :: s) = .ok (.natural n, r) ↔
      NoDigit s ∧ readNumberTail false 0 0 s = .ok (.natural n, r) := by
    cases s with
    | nil => simp [readNumber, NoDigit]
    | cons d s =>
        simp only [readNumber, noDigit_cons, ← isSome_digit?]
        split
        · next hd => simp [hd]
        · next hd => simp [hd]
  rw [hTail, readNumberTail_eq_natural]
  simp [eq_comm]

/-- Any other digit begins a number that is as long as there are digits. -/
theorem readNumber_digit_eq_natural {n : Nat} {c : Char} {s r : List Char} (hc : c ≠ '0') :
    readNumber false (c :: s) = .ok (.natural n, r) ↔
      IsDigit c ∧ Decimal.digitsFrom? 0 (readDigits (c :: s)).1 = some n ∧ n ≤ maxExact ∧
        (readDigits (c :: s)).2 = r ∧ IntegerEnd r := by
  by_cases hDigit : IsDigit c
  · cases hTaken : takeExact 0 0 (c :: s) with
    | mk k more =>
        obtain ⟨taken, left, rest⟩ := more
        obtain ⟨rfl, m, hm, hCases⟩ := takeExact_spec (Nat.zero_le _) hTaken
        have hRead : readNumber false (c :: s) =
            readNumberTail false k left (readDigits (c :: s)).2 := by
          simp [readNumber, mt (isNone_digit? c).mp (not_not.mpr hDigit), hTaken]
        rw [hRead, readNumberTail_eq_natural, hm]
        constructor
        · rintro ⟨-, rfl, rfl, rfl, hEnd⟩
          obtain ⟨-, rfl, hExact⟩ := hCases.resolve_right (by simp)
          exact ⟨hDigit, rfl, hExact, rfl, hEnd⟩
        · rintro ⟨-, hValue, hExact, rfl, hEnd⟩
          obtain rfl := Option.some.inj hValue
          obtain ⟨hLeft, hk, -⟩ := hCases.resolve_right fun h => absurd h.2 (by omega)
          exact ⟨rfl, hLeft, hk.symm, rfl, hEnd⟩
  · simp [readNumber, (isNone_digit? c).mpr hDigit, hDigit]

/-- A number without a sign, point and exponent is read as a natural number if
it stays exact, and nothing else is. -/
theorem readNumber_eq_natural {n : Nat} {s r : List Char} :
    readNumber false s = .ok (.natural n, r) ↔
      ∃ w, Unsigned w [] [] s r ∧ Decimal.digitsFrom? 0 w = some n ∧ n ≤ maxExact := by
  simp only [unsigned_integer_iff]
  cases s with
  | nil => simp [readNumber, whole_nil]
  | cons c s =>
      by_cases hc : c = '0'
      · subst hc
        have hZero : Decimal.digitsFrom? 0 ['0'] = some 0 := by decide
        rw [readNumber_zero_eq_natural]
        constructor
        · rintro ⟨hRest, rfl, rfl, hEnd⟩
          exact ⟨_, ⟨whole_zero_iff.mpr ⟨rfl, rfl, hRest⟩, hEnd⟩, hZero, Nat.zero_le _⟩
        · rintro ⟨w, ⟨hWhole, hEnd⟩, hValue, -⟩
          obtain ⟨rfl, rfl, hRest⟩ := whole_zero_iff.mp hWhole
          exact ⟨hRest, Option.some.inj (hValue.symm.trans hZero), rfl, hEnd⟩
      · rw [readNumber_digit_eq_natural hc]
        constructor
        · rintro ⟨hDigit, hValue, hExact, rfl, hEnd⟩
          exact ⟨_, ⟨(whole_cons_iff hc).mpr ⟨hDigit, rfl⟩, hEnd⟩, hValue, hExact⟩
        · rintro ⟨w, ⟨hWhole, hEnd⟩, hValue, hExact⟩
          obtain ⟨hDigit, hDigits⟩ := (whole_cons_iff hc).mp hWhole
          rw [hDigits]
          exact ⟨hDigit, hValue, hExact, rfl, hEnd⟩

/-- A number with a minus sign is not read as a natural number. -/
theorem readNumber_ne_natural {n : Nat} {s r : List Char} :
    readNumber true s ≠ .ok (.natural n, r) := by
  have hTail (k left : Nat) (t : List Char) :
      readNumberTail true k left t ≠ .ok (.natural n, r) := by
    simp [readNumberTail_eq_natural]
  unfold readNumber
  split
  · simp
  · split
    · split
      · simp
      · exact hTail _ _ _
    · exact hTail _ _ _
  · split
    · simp
    · exact hTail _ _ _

/-- The digits of a number spell a whole number. -/
theorem whole_digits (n : Nat) {r : List Char} (h : NoDigit r) :
    Whole (Decimal.digits n) (Decimal.digits n ++ r) r := by
  rcases Nat.eq_zero_or_pos n with rfl | hPositive
  · rw [Decimal.digits_of_lt (by decide)]
    exact .zero h
  · obtain ⟨c, ds, hDigits, hc⟩ := Decimal.digits_eq_cons hPositive
    have hAll : ∀ b ∈ c :: ds, IsDigit b := fun b hb =>
      Decimal.isDigit_of_mem_digits (hDigits ▸ hb)
    rw [hDigits]
    exact .digits hc ⟨List.cons_ne_nil c ds, hAll, rfl, h⟩

end Iconsmith.Json
