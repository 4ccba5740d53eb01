import Iconsmith.Proofs.Json.Grammar
import Mathlib.Data.List.TakeDrop

/-! A text determines what it starts with: the value, and where the value ends. -/
namespace Iconsmith.Json

/-! ### Blanks and numbers -/

theorem Blanks.refl (s : List Char) : Blanks s s := ⟨[], by simp, rfl⟩

theorem Blanks.cons {c : Char} {s r : List Char} (hc : isBlank c = true) (h : Blanks s r) :
    Blanks (c :: s) r := by
  obtain ⟨b, hBlank, rfl⟩ := h
  exact ⟨c :: b, by simpa [hc] using hBlank, rfl⟩

theorem Blanks.trans {s t r : List Char} (h : Blanks s t) (h' : Blanks t r) : Blanks s r := by
  obtain ⟨b, hb, rfl⟩ := h
  obtain ⟨b', hb', rfl⟩ := h'
  refine ⟨b ++ b', fun c hc => ?_, (List.append_assoc ..).symm⟩
  exact (List.mem_append.mp hc).elim (hb c) (hb' c)

theorem Blanks.append {s : List Char} (h : Blanks s []) (r : List Char) : Blanks (s ++ r) r := by
  obtain ⟨b, hb, rfl⟩ := h
  exact ⟨b, hb, by simp⟩

/-- Skipping blanks leads to the same wherever among them it starts. -/
theorem Blanks.skipBlanks_eq {s r : List Char} (h : Blanks s r) : skipBlanks s = skipBlanks r := by
  obtain ⟨b, hBlank, rfl⟩ := h
  exact List.dropWhile_append_of_pos hBlank

theorem blanks_skipBlanks (s : List Char) : Blanks s (skipBlanks s) :=
  ⟨s.takeWhile isBlank, fun _ hc => List.all_eq_true.mp List.all_takeWhile _ hc,
    (List.takeWhile_append_dropWhile ..).symm⟩

theorem skipBlanks_cons {c : Char} (hc : isBlank c = false) (s : List Char) :
    skipBlanks (c :: s) = c :: s := by
  simp [skipBlanks, hc]

/-- Where something other than a blank follows, all blanks are in front of it. -/
theorem Blanks.skipBlanks_eq_cons {c : Char} {s t : List Char} (h : Blanks s (c :: t))
    (hc : isBlank c = false) : skipBlanks s = c :: t := by
  rw [h.skipBlanks_eq, skipBlanks_cons hc]

theorem isDigit_iff (c : Char) : ('0' ≤ c && c ≤ '9') = true ↔ IsDigit c := by
  simp [IsDigit]

/-- Digits are taken as far as they go. -/
theorem readDigits_append {ds r : List Char} (hDigits : ∀ c ∈ ds, IsDigit c) (hRest : NoDigit r) :
    readDigits (ds ++ r) = (ds, r) := by
  have hAll : ∀ c ∈ ds, ('0' ≤ c && c ≤ '9') = true :=
    fun c hc => (isDigit_iff c).mpr (hDigits c hc)
  have hStop : r.takeWhile (fun c => '0' ≤ c && c ≤ '9') = [] ∧
      r.dropWhile (fun c => '0' ≤ c && c ≤ '9') = r := by
    cases r with
    | nil => simp
    | cons c t =>
        have hNot : ¬('0' ≤ c && c ≤ '9') = true := mt (isDigit_iff c).mp (hRest c t rfl)
        simp only [List.takeWhile_cons, List.dropWhile_cons, hNot]
        simp
  rw [readDigits, List.span_eq_takeWhile_dropWhile, List.takeWhile_append_of_pos hAll,
    List.dropWhile_append_of_pos hAll, hStop.1, hStop.2, List.append_nil]

/-- Digits are read as far as there are any. -/
theorem readDigits_spec (s : List Char) :
    (∀ c ∈ (readDigits s).1, IsDigit c) ∧ s = (readDigits s).1 ++ (readDigits s).2 ∧
      NoDigit (readDigits s).2 := by
  rw [readDigits, List.span_eq_takeWhile_dropWhile]
  have hTaken := List.all_eq_true.mp
    (List.all_takeWhile (p := fun c => '0' ≤ c && c ≤ '9') (l := s))
  refine ⟨fun c hc => (isDigit_iff c).mp (hTaken c hc),
    (List.takeWhile_append_dropWhile ..).symm, fun c t hRest hc => ?_⟩
  have hHead := List.head?_dropWhile_not (fun c => '0' ≤ c && c ≤ '9') s
  simp only at hRest
  simp only [hRest, List.head?_cons] at hHead
  simp [(isDigit_iff c).mpr hc] at hHead

/-- So the reader takes the digits that a text starts with. -/
theorem Digits.readDigits_eq {ds s r : List Char} (h : Digits ds s r) : readDigits s = (ds, r) := by
  rw [h.eq_append]
  exact readDigits_append h.isDigit h.noDigit

/-- A text starts with one row of digits, which ends where no digit follows. -/
theorem Digits.unique {ds ds' s r r' : List Char} (h : Digits ds s r) (h' : Digits ds' s r') :
    ds = ds' ∧ r = r' := by
  simpa using h.readDigits_eq.symm.trans h'.readDigits_eq

/-- Digits start with a digit. -/
theorem Digits.exists_cons {ds s r : List Char} (h : Digits ds s r) :
    ∃ c t, s = c :: t ∧ IsDigit c := by
  obtain ⟨hNe, hDigits, rfl, -⟩ := h
  cases ds with
  | nil => exact absurd rfl hNe
  | cons c ds => exact ⟨c, ds ++ r, rfl, hDigits c (by simp)⟩

/-- The whole part is a zero alone or all digits up to the next other character. -/
theorem Whole.unique {w w' s r r' : List Char} (h : Whole w s r) (h' : Whole w' s r') :
    w = w' ∧ r = r' := by
  cases h with
  | zero hRest =>
      cases h' with
      | zero _ => exact ⟨rfl, rfl⟩
      | digits hc h => exact absurd (List.cons.inj h.eq_append).1.symm hc
  | digits hc h =>
      cases h' with
      | zero _ => exact absurd (List.cons.inj h.eq_append).1.symm hc
      | digits _ h' => exact h.unique h'

/-- There is a fraction where a point stands, with all digits behind it. -/
theorem Fraction.unique {f f' s r r' : List Char} (h : Fraction f s r) (h' : Fraction f' s r') :
    f = f' ∧ r = r' := by
  cases h with
  | none hPoint =>
      cases h' with
      | none _ => exact ⟨rfl, rfl⟩
      | digits _ => exact absurd rfl hPoint
  | digits h =>
      cases h' with
      | none hPoint => exact absurd rfl hPoint
      | digits h' => exact h.unique h'

/-- The sign of an exponent is seen from its first character. -/
theorem Sign.unique {g g' s r r' : List Char} (h : Sign g s r) (h' : Sign g' s r') :
    g = g' ∧ r = r' := by
  cases h <;> cases h' <;> first
    | exact ⟨rfl, rfl⟩
    | (next hPlus hMinus => first | exact absurd rfl hPlus | exact absurd rfl hMinus)

/-- There is an exponent where its letter stands. -/
theorem Exponent.unique {e e' s r r' : List Char} (h : Exponent e s r) (h' : Exponent e' s r') :
    e = e' ∧ r = r' := by
  cases h with
  | none hLower hUpper =>
      cases h' with
      | none _ _ => exact ⟨rfl, rfl⟩
      | digits he _ _ => rcases he with rfl | rfl <;> simp at hLower hUpper
  | digits he hSign h =>
      cases h' with
      | none hLower hUpper => rcases he with rfl | rfl <;> simp at hLower hUpper
      | digits _ hSign' h' =>
          obtain ⟨rfl, rfl⟩ := hSign.unique hSign'
          obtain ⟨rfl, rfl⟩ := h.unique h'
          exact ⟨rfl, rfl⟩

/-- A number without its sign has one reading, part by part. -/
theorem Unsigned.unique {w w' f f' e e' s r r' : List Char} (h : Unsigned w f e s r)
    (h' : Unsigned w' f' e' s r') : w = w' ∧ f = f' ∧ e = e' ∧ r = r' := by
  obtain ⟨s₁, s₂, hWhole, hFraction, hExponent⟩ := h.parts
  obtain ⟨s₁', s₂', hWhole', hFraction', hExponent'⟩ := h'.parts
  obtain ⟨rfl, rfl⟩ := hWhole.unique hWhole'
  obtain ⟨rfl, rfl⟩ := hFraction.unique hFraction'
  obtain ⟨rfl, rfl⟩ := hExponent.unique hExponent'
  exact ⟨rfl, rfl, rfl, rfl⟩

theorem Unsigned.exists_cons {w f e s r : List Char} (h : Unsigned w f e s r) :
    ∃ c t, s = c :: t ∧ IsDigit c := by
  obtain ⟨s₁, s₂, hWhole, -, -⟩ := h.parts
  cases hWhole with
  | zero _ => exact ⟨'0', s₁, rfl, by decide, by decide⟩
  | digits _ h => exact h.exists_cons

theorem not_isDigit_minus : ¬IsDigit '-' := fun h => absurd h.1 (by decide)

/-- A text starts with at most one number. -/
theorem Numeral.Written.unique {n n' : Numeral} {s r r' : List Char} (h : n.Written s r)
    (h' : n'.Written s r') : n = n' ∧ r = r' := by
  cases h with
  | positive h =>
      cases h' with
      | positive h' =>
          obtain ⟨rfl, rfl, rfl, rfl⟩ := h.unique h'
          exact ⟨rfl, rfl⟩
      | negative h' =>
          obtain ⟨c, t, hs, hc⟩ := h.exists_cons
          exact absurd ((List.cons.inj hs).1 ▸ hc) not_isDigit_minus
  | negative h =>
      cases h' with
      | positive h' =>
          obtain ⟨c, t, hs, hc⟩ := h'.exists_cons
          exact absurd ((List.cons.inj hs).1 ▸ hc) not_isDigit_minus
      | negative h' =>
          obtain ⟨rfl, rfl, rfl, rfl⟩ := h.unique h'
          exact ⟨rfl, rfl⟩

/-! ### Strings -/

/-- A string has one reading, by induction on its units: the first characters tell which of the
rules has been used. -/
theorem Units.unique {us us' : List Nat} {s r r' : List Char} (h : Units us s r)
    (h' : Units us' s r') : us = us' ∧ r = r' := by
  induction h generalizing us' with
  | close =>
      cases h' with
      | close => exact ⟨rfl, rfl⟩
      | plain hQuote _ _ _ => exact absurd rfl hQuote
  | plain hQuote hEscape hControl h ih =>
      cases h' with
      | close => exact absurd rfl hQuote
      | plain _ _ _ h' =>
          obtain ⟨rfl, rfl⟩ := ih h'
          exact ⟨rfl, rfl⟩
      | simple _ _ => exact absurd rfl hEscape
      | hex _ _ => exact absurd rfl hEscape
  | simple he h ih =>
      cases h' with
      | plain _ hEscape _ _ => exact absurd rfl hEscape
      | simple he' h' =>
          obtain ⟨rfl, rfl⟩ := ih h'
          obtain rfl := Option.some.inj (he.symm.trans he')
          exact ⟨rfl, rfl⟩
      | hex _ _ => simp [simpleEscape?] at he
  | hex hu h ih =>
      cases h' with
      | plain _ hEscape _ _ => exact absurd rfl hEscape
      | simple he' _ => simp [simpleEscape?] at he'
      | hex hu' h' =>
          obtain ⟨rfl, rfl⟩ := ih h'
          obtain rfl := Option.some.inj (hu.symm.trans hu')
          exact ⟨rfl, rfl⟩

/-! ### Values -/

theorem isBlank_of_isDigit {c : Char} (h : IsDigit c) : isBlank c = false := by
  have hNe : ∀ b : Char, ¬ '0' ≤ b → c ≠ b := by
    rintro b hb rfl
    exact hb h.1
  simp [isBlank, hNe ' ' (by decide), hNe '\n' (by decide), hNe '\t' (by decide),
    hNe '\r' (by decide)]

/-- A value starts with a character that is no blank, closes nothing and
separates nothing. -/
theorem Written.exists_cons {v : Value} {s r : List Char} (h : Written v s r) :
    ∃ c t, s = c :: t ∧ isBlank c = false ∧ c ≠ ']' ∧ c ≠ ',' := by
  cases h with
  | null => exact ⟨_, _, rfl, by decide, by decide, by decide⟩
  | boolTrue => exact ⟨_, _, rfl, by decide, by decide, by decide⟩
  | boolFalse => exact ⟨_, _, rfl, by decide, by decide, by decide⟩
  | string _ => exact ⟨_, _, rfl, by decide, by decide, by decide⟩
  | list _ => exact ⟨_, _, rfl, by decide, by decide, by decide⟩
  | object _ => exact ⟨_, _, rfl, by decide, by decide, by decide⟩
  | number h =>
      cases h with
      | negative _ => exact ⟨_, _, rfl, by decide, by decide, by decide⟩
      | positive h =>
          obtain ⟨c, t, rfl, hc⟩ := h.exists_cons
          refine ⟨c, t, rfl, isBlank_of_isDigit hc, ?_, ?_⟩
          · rintro rfl
            exact absurd hc.2 (by decide)
          · rintro rfl
            exact absurd hc.1 (by decide)

/-- Skipping blanks leads to where the value starts, as no value starts with one. -/
theorem Written.skipBlanks_eq {v : Value} {s₀ s r : List Char} (h : Written v s r)
    (hBlanks : Blanks s₀ s) : skipBlanks s₀ = s := by
  obtain ⟨c, t, rfl, hc, -⟩ := h.exists_cons
  exact hBlanks.skipBlanks_eq_cons hc

/-- What comes after a separator and blanks is determined by what comes before. -/
theorem Separator.unique {first : Bool} {s t t' : List Char} (h : Separator first s t)
    (h' : Separator first s t') : t = t' := by
  cases h with
  | first => cases h'; rfl
  | comma h =>
      cases h' with
      | comma h' =>
          have hSame := (h.skipBlanks_eq_cons (by decide)).symm.trans
            (h'.skipBlanks_eq_cons (by decide))
          exact (List.cons.inj hSame).2

/-- Nothing is closed where a separator and something else than the closing
mark `x` follow. -/
theorem Separator.not_closed {first : Bool} {c x : Char} {s s₁ t r : List Char}
    (h : Separator first s s₁) (hNext : Blanks s₁ (c :: t)) (hc : isBlank c = false)
    (hx : isBlank x = false) (hDiffer : c ≠ x) (hComma : ',' ≠ x) : ¬Blanks s (x :: r) := by
  intro hClosed
  have hMark := hClosed.skipBlanks_eq_cons hx
  cases h with
  | first => exact hDiffer (List.cons.inj ((hNext.skipBlanks_eq_cons hc).symm.trans hMark)).1
  | comma h => exact hComma (List.cons.inj ((h.skipBlanks_eq_cons (by decide)).symm.trans hMark)).1

theorem Blanks.unique {c : Char} {s r r' : List Char} (h : Blanks s (c :: r))
    (h' : Blanks s (c :: r')) (hc : isBlank c = false) : r = r' :=
  (List.cons.inj ((h.skipBlanks_eq_cons hc).symm.trans (h'.skipBlanks_eq_cons hc))).2

/-- A number starts with a digit or a minus sign. -/
theorem Numeral.Written.head {n : Numeral} {c : Char} {s r : List Char}
    (h : n.Written (c :: s) r) : IsDigit c ∨ c = '-' := by
  cases h with
  | positive h =>
      obtain ⟨d, t, hs, hd⟩ := h.exists_cons
      exact .inl ((List.cons.inj hs).1 ▸ hd)
  | negative _ => exact .inr rfl

/-! ### The kind of a value is seen from its first character -/

section

variable {v : Value} {s r : List Char}

theorem written_null_iff : Written v ('n' :: s) r ↔ v = .null ∧ s = 'u' :: 'l' :: 'l' :: r := by
  constructor
  · intro h
    cases h with
    | null => exact ⟨rfl, rfl⟩
    | number h => exact absurd h.head (by simp [IsDigit])
  · rintro ⟨rfl, rfl⟩
    exact .null

theorem written_true_iff :
    Written v ('t' :: s) r ↔ v = .bool true ∧ s = 'r' :: 'u' :: 'e' :: r := by
  constructor
  · intro h
    cases h with
    | boolTrue => exact ⟨rfl, rfl⟩
    | number h => exact absurd h.head (by simp [IsDigit])
  · rintro ⟨rfl, rfl⟩
    exact .boolTrue

theorem written_false_iff :
    Written v ('f' :: s) r ↔ v = .bool false ∧ s = 'a' :: 'l' :: 's' :: 'e' :: r := by
  constructor
  · intro h
    cases h with
    | boolFalse => exact ⟨rfl, rfl⟩
    | number h => exact absurd h.head (by simp [IsDigit])
  · rintro ⟨rfl, rfl⟩
    exact .boolFalse

/-- A value that starts with a quote is a string. -/
theorem written_string_iff :
    Written v ('"' :: s) r ↔ ∃ us, v = .string us ∧ Units us s r := by
  constructor
  · intro h
    cases h with
    | string h => exact ⟨_, rfl, h⟩
    | number h => exact absurd h.head (by simp [IsDigit])
  · rintro ⟨us, rfl, h⟩
    exact .string h

/-- A value that starts with a bracket is a list. -/
theorem written_list_iff :
    Written v ('[' :: s) r ↔ ∃ vs, v = .list vs ∧ Elements true vs s r := by
  constructor
  · intro h
    cases h with
    | list h => exact ⟨_, rfl, h⟩
    | number h => exact absurd h.head (by simp [IsDigit])
  · rintro ⟨vs, rfl, h⟩
    exact .list h

/-- A value that starts with a brace is an object. -/
theorem written_object_iff :
    Written v ('\x7b' :: s) r ↔ ∃ ms, v = .object ms ∧ Members true ms s r := by
  constructor
  · intro h
    cases h with
    | object h => exact ⟨_, rfl, h⟩
    | number h => exact absurd h.head (by simp [IsDigit])
  · rintro ⟨ms, rfl, h⟩
    exact .object h

/-- A value that starts with a digit or a minus sign is a number. -/
theorem written_number_iff {c : Char} (hc : IsDigit c ∨ c = '-') :
    Written v (c :: s) r ↔ ∃ n, v = .number n ∧ n.Written (c :: s) r := by
  constructor
  · intro h
    cases h with
    | number h => exact ⟨_, rfl, h⟩
    | _ => exact absurd hc (by simp [IsDigit])
  · rintro ⟨n, rfl, h⟩
    exact .number h

end

/-! ### Uniqueness -/

mutual

/-- A text starts with at most one value, and this ends at one place only. The three kinds of text
are taken together, by induction on the derivation. -/
theorem Written.unique {v v' : Value} {s r r' : List Char} (h : Written v s r)
    (h' : Written v' s r') : v = v' ∧ r = r' := by
  cases h with
  | null => simpa [eq_comm] using written_null_iff.mp h'
  | boolTrue => simpa [eq_comm] using written_true_iff.mp h'
  | boolFalse => simpa [eq_comm] using written_false_iff.mp h'
  | number h =>
      obtain ⟨c, t, rfl, -⟩ := h'.exists_cons
      obtain ⟨n, rfl, hNumber⟩ := (written_number_iff h.head).mp h'
      obtain ⟨rfl, rfl⟩ := h.unique hNumber
      exact ⟨rfl, rfl⟩
  | string h =>
      obtain ⟨us, rfl, hInner⟩ := written_string_iff.mp h'
      obtain ⟨rfl, rfl⟩ := h.unique hInner
      exact ⟨rfl, rfl⟩
  | list h =>
      obtain ⟨vs, rfl, hInner⟩ := written_list_iff.mp h'
      obtain ⟨rfl, rfl⟩ := h.unique hInner
      exact ⟨rfl, rfl⟩
  | object h =>
      obtain ⟨ms, rfl, hInner⟩ := written_object_iff.mp h'
      obtain ⟨rfl, rfl⟩ := h.unique hInner
      exact ⟨rfl, rfl⟩

theorem Elements.unique {first : Bool} {vs vs' : List Value} {s r r' : List Char}
    (h : Elements first vs s r) (h' : Elements first vs' s r') : vs = vs' ∧ r = r' := by
  cases h with
  | close h =>
      cases h' with
      | close h' => exact ⟨rfl, h.unique h' (by decide)⟩
      | element hSeparator hBlanks hValue _ =>
          obtain ⟨c, t, rfl, hc, hBracket, -⟩ := hValue.exists_cons
          exact absurd h (hSeparator.not_closed hBlanks hc (by decide) hBracket (by decide))
  | element hSeparator hBlanks hValue hMore =>
      cases h' with
      | close h' =>
          obtain ⟨c, t, rfl, hc, hBracket, -⟩ := hValue.exists_cons
          exact absurd h' (hSeparator.not_closed hBlanks hc (by decide) hBracket (by decide))
      | element hSeparator' hBlanks' hValue' hMore' =>
          obtain rfl := hSeparator.unique hSeparator'
          obtain rfl := (hValue.skipBlanks_eq hBlanks).symm.trans (hValue'.skipBlanks_eq hBlanks')
          obtain ⟨rfl, rfl⟩ := hValue.unique hValue'
          obtain ⟨rfl, rfl⟩ := hMore.unique hMore'
          exact ⟨rfl, rfl⟩

theorem Members.unique {first : Bool} {ms ms' : List (List Nat × Value)} {s r r' : List Char}
    (h : Members first ms s r) (h' : Members first ms' s r') : ms = ms' ∧ r = r' := by
  cases h with
  | close h =>
      cases h' with
      | close h' => exact ⟨rfl, h.unique h' (by decide)⟩
      | member hSeparator hBlanks _ _ _ _ _ =>
          exact absurd h
            (hSeparator.not_closed hBlanks (by decide) (by decide) (by decide) (by decide))
  | member hSeparator hBlanks hKey hColon hBlanks₂ hValue hMore =>
      cases h' with
      | close h' =>
          exact absurd h'
            (hSeparator.not_closed hBlanks (by decide) (by decide) (by decide) (by decide))
      | member hSeparator' hBlanks' hKey' hColon' hBlanks₂' hValue' hMore' =>
          obtain rfl := hSeparator.unique hSeparator'
          obtain rfl := hBlanks.unique hBlanks' (by decide)
          obtain ⟨rfl, rfl⟩ := hKey.unique hKey'
          obtain rfl := hColon.unique hColon' (by decide)
          obtain rfl := (hValue.skipBlanks_eq hBlanks₂).symm.trans (hValue'.skipBlanks_eq hBlanks₂')
          obtain ⟨rfl, rfl⟩ := hValue.unique hValue'
          obtain ⟨rfl, rfl⟩ := hMore.unique hMore'
          exact ⟨rfl, rfl⟩

end

/-- A text is the text of one value only. -/
theorem Text.unique {v v' : Value} {s : List Char} (h : Text v s) (h' : Text v' s) : v = v' := by
  obtain ⟨s₁, s₂, hBlanks, hValue, -⟩ := h.written
  obtain ⟨s₁', s₂', hBlanks', hValue', -⟩ := h'.written
  obtain rfl := (hValue.skipBlanks_eq hBlanks).symm.trans (hValue'.skipBlanks_eq hBlanks')
  exact (hValue.unique hValue').1

/-- A value with something other than blanks behind it is no whole text. -/
theorem not_text_of_trailing {v v' : Value} {c : Char} {s s' r t : List Char}
    (hBlanks : Blanks s s') (hValue : Written v s' r) (hTrailing : Blanks r (c :: t))
    (hc : isBlank c = false) : ¬Text v' s := by
  rintro ⟨s₁, s₂, hBlanks', hValue', hEnd⟩
  obtain rfl := (hValue.skipBlanks_eq hBlanks).symm.trans (hValue'.skipBlanks_eq hBlanks')
  obtain ⟨-, rfl⟩ := hValue.unique hValue'
  exact nomatch (hTrailing.skipBlanks_eq_cons hc).symm.trans hEnd.skipBlanks_eq

end Iconsmith.Json
