import Iconsmith.Proofs.Json.Number
import Iconsmith.Proofs.Json.String

/-! Skipping succeeds just where a value starts, and stops where it ends. -/
namespace Iconsmith.Json

/-! ### Parts of values -/

/-- Blanks in front of another character are just what is skipped. -/
theorem blanks_cons_iff {c : Char} (hc : isBlank c = false) {s r : List Char} :
    Blanks s (c :: r) ↔ skipBlanks s = c :: r :=
  ⟨fun h => h.skipBlanks_eq_cons hc, fun h => h ▸ blanks_skipBlanks s⟩

theorem blanks_nil_iff {s : List Char} : Blanks s [] ↔ skipBlanks s = [] :=
  ⟨fun h => h.skipBlanks_eq, fun h => h ▸ blanks_skipBlanks s⟩

/-- A word is read if it stands there letter by letter. -/
theorem readWord_eq_ok {ws s r : List Char} : readWord ws s = .ok r ↔ s = ws ++ r := by
  induction ws generalizing s with
  | nil => simp [readWord]
  | cons w ws ih =>
      cases s with
      | nil => simp [readWord]
      | cons c s =>
          simp only [readWord, List.cons_append, List.cons.injEq]
          split
          · next h => simp [ih, h]
          · next h => simp [h]

/-- A key is skipped if a string stands there and a colon behind it. -/
theorem skipKey_eq_ok {s r : List Char} :
    skipKey s = .ok r ↔ ∃ key t u, Blanks s ('"' :: t) ∧ Units key t u ∧ Blanks u (':' :: r) := by
  simp only [blanks_cons_iff (by decide : isBlank '"' = false),
    blanks_cons_iff (by decide : isBlank ':' = false)]
  unfold skipKey
  split
  · next hNil => simp [hNil]
  · next t hQuote =>
    simp only [hQuote, List.cons.injEq, true_and]
    cases hKey : skipString t with
    | error f =>
        constructor
        · exact nofun
        · rintro ⟨key, _, u, rfl, hUnits, -⟩
          exact nomatch hKey.symm.trans (skipString_eq_ok.mpr ⟨key, hUnits⟩)
    | ok u =>
        obtain ⟨key, hUnits⟩ := skipString_eq_ok.mp hKey
        have hColon : (∃ key t' u', t = t' ∧ Units key t' u' ∧ skipBlanks u' = ':' :: r) ↔
            skipBlanks u = ':' :: r := by
          constructor
          · rintro ⟨key', _, u', rfl, hUnits', hEq⟩
            exact (hUnits.unique hUnits').2 ▸ hEq
          · exact fun hEq => ⟨key, t, u, rfl, hUnits, hEq⟩
        rw [hColon]
        simp only
        split
        · next hEq => simp [hEq]
        · next hEq => simp [hEq]
        · next hOther _ =>
          exact ⟨nofun, fun hEq => (hOther r hEq).elim⟩
  · next _ hOther =>
    constructor
    · exact nofun
    · rintro ⟨key, t, u, hEq, -⟩
      exact (hOther t hEq).elim

/-- A number is skipped from its first digit on. -/
theorem exists_written_digit_iff {c : Char} (hc : IsDigit c) {s r : List Char} :
    (∃ v, Written v (c :: s) r) ↔ skipNumber (c :: s) = .ok r := by
  simp only [written_number_iff (.inl hc), skipNumber_eq_ok]
  constructor
  · rintro ⟨_, n, rfl, h⟩
    cases h with
    | positive h => exact ⟨_, _, _, h⟩
    | negative _ => exact absurd hc not_isDigit_minus
  · rintro ⟨w, f, e, h⟩
    exact ⟨_, _, rfl, .positive h⟩

/-- Behind a minus sign the number itself is skipped. -/
theorem exists_written_minus_iff {s r : List Char} :
    (∃ v, Written v ('-' :: s) r) ↔ skipNumber s = .ok r := by
  simp only [written_number_iff (.inr rfl), skipNumber_eq_ok]
  constructor
  · rintro ⟨_, n, rfl, h⟩
    cases h with
    | negative h => exact ⟨_, _, _, h⟩
    | positive h =>
        obtain ⟨c, t, hEq, hc⟩ := h.exists_cons
        exact absurd ((List.cons.inj hEq).1 ▸ hc) not_isDigit_minus
  · rintro ⟨w, f, e, h⟩
    exact ⟨_, _, rfl, .negative h⟩

/-- A value that is neither a list nor an object is skipped at once. -/
theorem skipScalar_eq_ok {s r : List Char} (hList : ∀ t, s ≠ '[' :: t)
    (hObject : ∀ t, s ≠ '\x7b' :: t) : skipScalar s = .ok r ↔ ∃ v, Written v s r := by
  unfold skipScalar
  split
  · exact ⟨nofun, fun ⟨v, h⟩ => nomatch h.exists_cons⟩
  · simp [readWord_eq_ok, written_null_iff]
  · simp [readWord_eq_ok, written_true_iff]
  · simp [readWord_eq_ok, written_false_iff]
  · exact exists_written_minus_iff.symm
  · simp only [skipString_eq_ok, written_string_iff]
    exact ⟨fun ⟨us, h⟩ => ⟨_, us, rfl, h⟩, fun ⟨_, us, _, h⟩ => ⟨us, h⟩⟩
  · next c t hNull hTrue hFalse hMinus hString =>
    split
    · next hc => rw [exists_written_digit_iff ((isSome_digit? c).mp hc)]
    · next hc =>
      have hDigit : ¬IsDigit c := mt (isSome_digit? c).mpr hc
      refine ⟨nofun, fun ⟨v, h⟩ => ?_⟩
      cases h with
      | null => exact (hNull rfl).elim
      | number h => exact (h.head.elim hDigit hMinus).elim
      | boolTrue => exact (hTrue rfl).elim
      | boolFalse => exact (hFalse rfl).elim
      | string _ => exact (hString rfl).elim
      | list _ => exact absurd rfl (hList _)
      | object _ => exact absurd rfl (hObject _)

/-! ### The open containers -/

/-- All containers that are open in front of `s` are closed in front of `r`;
`first` tells whether the innermost one has no element yet. -/
def Closes : Bool → List Frame → List Char → List Char → Prop
  | _, [], s, r => s = r
  | first, .list :: stack, s, r => ∃ vs t, Elements first vs s t ∧ Closes false stack t r
  | first, .object :: stack, s, r => ∃ ms t, Members first ms s t ∧ Closes false stack t r

/-- What stands between `s` and `r` in a state of skipping. -/
def SkipState.Spans : SkipState → List Frame → List Char → List Char → Prop
  | .value, stack, s, r => ∃ v s' t, Blanks s s' ∧ Written v s' t ∧ Closes false stack t r
  | .after, stack, s, r => Closes false stack s r
  | .opened, stack, s, r => Closes true stack s r

theorem closes_list {first : Bool} {stack : List Frame} {s t r : List Char}
    (hEnd : skipBlanks s = ']' :: t) (h : Closes false stack t r) :
    Closes first (.list :: stack) s r :=
  ⟨[], t, .close ((blanks_cons_iff (by decide)).mpr hEnd), h⟩

theorem closes_object {first : Bool} {stack : List Frame} {s t r : List Char}
    (hEnd : skipBlanks s = '\x7d' :: t) (h : Closes false stack t r) :
    Closes first (.object :: stack) s r :=
  ⟨[], t, .close ((blanks_cons_iff (by decide)).mpr hEnd), h⟩

/-- A list goes on with an element behind its separator. -/
theorem closes_element {first : Bool} {stack : List Frame} {s s₁ s₂ r : List Char}
    (hSeparator : Separator first s s₁) (hBlanks : Blanks s₁ s₂)
    (h : SkipState.value.Spans (.list :: stack) s₂ r) : Closes first (.list :: stack) s r := by
  obtain ⟨v, s₃, t, hBlanks', hValue, vs, u, hMore, hRest⟩ := h
  exact ⟨v :: vs, u, .element hSeparator (hBlanks.trans hBlanks') hValue hMore, hRest⟩

/-- An object goes on with a key and a value behind its separator. -/
theorem closes_member {first : Bool} {stack : List Frame} {s s₁ s₂ s₃ r : List Char}
    (hSeparator : Separator first s s₁) (hBlanks : Blanks s₁ s₂) (hKey : skipKey s₂ = .ok s₃)
    (h : SkipState.value.Spans (.object :: stack) s₃ r) : Closes first (.object :: stack) s r := by
  obtain ⟨key, t, u, hBlanks', hUnits, hColon⟩ := skipKey_eq_ok.mp hKey
  obtain ⟨v, s₄, t', hBlanks₂, hValue, ms, u', hMore, hRest⟩ := h
  exact ⟨(key, v) :: ms, u',
    .member hSeparator (hBlanks.trans hBlanks') hUnits hColon hBlanks₂ hValue hMore, hRest⟩

theorem separator_of_skipBlanks {s t : List Char} (h : skipBlanks s = ',' :: t) :
    Separator false s t :=
  .comma ((blanks_cons_iff (by decide)).mpr h)

/-- Skipping stops behind a value and the ends of all open containers. -/
theorem spans_of_skipSteps {n : Nat} {state : SkipState} {stack : List Frame} {s r : List Char}
    (h : skipSteps n state stack s = .ok r) : state.Spans stack s r := by
  fun_induction skipSteps n state stack s with
  | case2 steps stack s t hOpen ih =>
      obtain ⟨vs, u, hElements, hRest⟩ := ih h
      exact ⟨_, _, u, (blanks_cons_iff (by decide)).mpr hOpen, .list hElements, hRest⟩
  | case3 steps stack s t hOpen ih =>
      obtain ⟨ms, u, hMembers, hRest⟩ := ih h
      exact ⟨_, _, u, (blanks_cons_iff (by decide)).mpr hOpen, .object hMembers, hRest⟩
  | case5 steps stack s t hList hObject hScalar ih =>
      obtain ⟨v, hValue⟩ := (skipScalar_eq_ok hList hObject).mp hScalar
      exact ⟨v, _, t, blanks_skipBlanks s, hValue, ih h⟩
  | case6 | case16 => exact Except.ok.inj h
  | case7 steps stack s t hComma ih =>
      exact closes_element (separator_of_skipBlanks hComma) (.refl t) (ih h)
  | case9 steps stack s t hComma u hKey ih =>
      exact closes_member (separator_of_skipBlanks hComma) (.refl t) hKey (ih h)
  | case10 steps stack s t hEnd ih => exact closes_list hEnd (ih h)
  | case11 steps stack s t hEnd ih => exact closes_object hEnd (ih h)
  | case17 steps stack s t hEnd ih => exact closes_list hEnd (ih h)
  | case18 steps stack s t hEnd ih => exact closes_object hEnd (ih h)
  | case21 steps stack s _ _ ih => exact closes_element .first (blanks_skipBlanks s) (ih h)
  | case23 steps stack s t _ _ hKey ih =>
      exact closes_member .first (blanks_skipBlanks s) hKey (ih h)
  | _ => exact nomatch h

/-! ### Enough steps -/

theorem Blanks.length_le {s r : List Char} (h : Blanks s r) : r.length ≤ s.length := by
  obtain ⟨b, -, rfl⟩ := h
  simp

theorem Digits.length_lt {ds s r : List Char} (h : Digits ds s r) : r.length < s.length := by
  rw [h.eq_append, List.length_append]
  exact Nat.lt_add_of_pos_left (List.length_pos_iff.mpr h.ne_nil)

theorem Unsigned.length_lt {w f e s r : List Char} (h : Unsigned w f e s r) :
    r.length < s.length := by
  obtain ⟨t, u, hWhole, hFraction, hExponent⟩ := h.parts
  have hFirst : t.length < s.length := by
    cases hWhole with
    | zero _ => simp
    | digits _ h => exact h.length_lt
  have hSecond : u.length ≤ t.length := by
    cases hFraction with
    | none _ => exact Nat.le_refl _
    | digits h => exact Nat.le_succ_of_le (Nat.le_of_lt h.length_lt)
  have hThird : r.length ≤ u.length := by
    cases hExponent with
    | none _ _ => exact Nat.le_refl _
    | digits _ hSign h =>
        have := h.length_lt
        cases hSign <;> simp only [List.length_cons] <;> omega
  omega

theorem Numeral.Written.length_lt {n : Numeral} {s r : List Char} (h : n.Written s r) :
    r.length < s.length := by
  cases h with
  | positive h => exact h.length_lt
  | negative h => exact Nat.lt_succ_of_lt h.length_lt

theorem Units.length_lt {us : List Nat} {s r : List Char} (h : Units us s r) :
    r.length < s.length := by
  induction h with
  | close => simp
  | plain _ _ _ _ ih | simple _ _ ih | hex _ _ ih =>
      simp only [List.length_cons]
      omega

/-- The state behind an element or in front of the first one. -/
def SkipState.inside (first : Bool) : SkipState := if first then .opened else .after

/-- A value that is neither list nor object is skipped in one step. -/
theorem skipSteps_scalar {v : Value} {s₀ s r : List Char} (h : Written v s r)
    (hBlanks : Blanks s₀ s) (hList : ∀ t, s ≠ '[' :: t) (hObject : ∀ t, s ≠ '\x7b' :: t) (k : Nat)
    (stack : List Frame) : skipSteps (k + 1) .value stack s₀ = skipSteps k .after stack r := by
  have hScalar := (skipScalar_eq_ok hList hObject).mpr ⟨v, h⟩
  simp only [skipSteps, h.skipBlanks_eq hBlanks, hScalar]

/-- A separator in a list is passed in one step, to the blanks in front of the next element. -/
theorem skipSteps_element {first : Bool} {v : Value} {s s₁ s₂ s₃ : List Char}
    (hSeparator : Separator first s s₁) (hBlanks : Blanks s₁ s₂) (hValue : Written v s₂ s₃) :
    ∃ t, Blanks t s₂ ∧ t.length ≤ s.length ∧ ∀ k stack,
      skipSteps (k + 1) (.inside first) (.list :: stack) s =
        skipSteps k .value (.list :: stack) t := by
  cases hSeparator with
  | first =>
      obtain ⟨c, t, rfl, -, hBracket, -⟩ := hValue.exists_cons
      refine ⟨c :: t, .refl _, hBlanks.length_le, fun k stack => ?_⟩
      simp [SkipState.inside, skipSteps, hValue.skipBlanks_eq hBlanks, hBracket]
  | comma h =>
      have hLength := h.length_le
      refine ⟨s₁, hBlanks, by simp at hLength; omega, fun k stack => ?_⟩
      simp [SkipState.inside, skipSteps, h.skipBlanks_eq_cons (by decide)]

/-- A separator and a key in an object are passed in one step. -/
theorem skipSteps_member {first : Bool} {key : List Nat} {s s₁ s₂ s₃ s₄ : List Char}
    (hSeparator : Separator first s s₁) (hBlanks : Blanks s₁ ('"' :: s₂)) (hKey : Units key s₂ s₃)
    (hColon : Blanks s₃ (':' :: s₄)) :
    s₄.length ≤ s.length ∧ ∀ k stack,
      skipSteps (k + 1) (.inside first) (.object :: stack) s =
        skipSteps k .value (.object :: stack) s₄ := by
  have hLength₁ := hBlanks.length_le
  have hLength₂ := hKey.length_lt
  have hLength₃ := hColon.length_le
  simp only [List.length_cons] at hLength₁ hLength₃
  cases hSeparator with
  | first =>
      have hSkip := skipKey_eq_ok.mpr ⟨key, s₂, s₃, .refl _, hKey, hColon⟩
      refine ⟨by omega, fun k stack => ?_⟩
      simp [SkipState.inside, skipSteps, hBlanks.skipBlanks_eq_cons (by decide), hSkip]
  | comma h =>
      have hSkip := skipKey_eq_ok.mpr ⟨key, s₂, s₃, hBlanks, hKey, hColon⟩
      have hLength := h.length_le
      simp only [List.length_cons] at hLength
      refine ⟨by omega, fun k stack => ?_⟩
      simp [SkipState.inside, skipSteps, h.skipBlanks_eq_cons (by decide), hSkip]

theorem skipSteps_closeList {first : Bool} {s r : List Char} (h : Blanks s (']' :: r)) (k : Nat)
    (stack : List Frame) :
    skipSteps (k + 1) (.inside first) (.list :: stack) s = skipSteps k .after stack r := by
  cases first <;> simp [SkipState.inside, skipSteps, h.skipBlanks_eq_cons (by decide)]

theorem skipSteps_closeObject {first : Bool} {s r : List Char} (h : Blanks s ('\x7d' :: r))
    (k : Nat) (stack : List Frame) :
    skipSteps (k + 1) (.inside first) (.object :: stack) s = skipSteps k .after stack r := by
  cases first <;> simp [SkipState.inside, skipSteps, h.skipBlanks_eq_cons (by decide)]

mutual

/-- Skipping a value takes less than three steps for each of its characters. -/
theorem Written.skipSteps_eq {v : Value} {s₀ s r : List Char} (h : Written v s r)
    (hBlanks : Blanks s₀ s) :
    ∃ n, n + 2 + 3 * r.length ≤ 3 * s₀.length ∧
      ∀ k stack, skipSteps (k + n) .value stack s₀ = skipSteps k .after stack r := by
  have hLength := hBlanks.length_le
  cases h with
  | null => exact ⟨1, by simp at hLength; omega, skipSteps_scalar .null hBlanks nofun nofun⟩
  | boolTrue => exact ⟨1, by simp at hLength; omega, skipSteps_scalar .boolTrue hBlanks nofun nofun⟩
  | boolFalse =>
      exact ⟨1, by simp at hLength; omega, skipSteps_scalar .boolFalse hBlanks nofun nofun⟩
  | number h =>
      have := h.length_lt
      have hHead {c : Char} (hDigit : ¬IsDigit c) (hMinus : c ≠ '-') (t : List Char) :
          s ≠ c :: t := by
        rintro rfl
        exact h.head.elim hDigit hMinus
      exact ⟨1, by omega, skipSteps_scalar (.number h) hBlanks
        (hHead (by simp [IsDigit]) (by decide)) (hHead (by simp [IsDigit]) (by decide))⟩
  | string h =>
      have := h.length_lt
      exact ⟨1, by simp at hLength; omega, skipSteps_scalar (.string h) hBlanks nofun nofun⟩
  | list h =>
      -- One step opens the container; the stack remembers it until its elements are skipped.
      obtain ⟨n, hn, hSteps⟩ := h.skipSteps_eq
      refine ⟨n + 1, by simp at hLength; omega, fun k stack => ?_⟩
      rw [← Nat.add_assoc, ← hSteps k stack]
      simp only [skipSteps, hBlanks.skipBlanks_eq_cons (by decide : isBlank '[' = false)]
      rfl
  | object h =>
      obtain ⟨n, hn, hSteps⟩ := h.skipSteps_eq
      refine ⟨n + 1, by simp at hLength; omega, fun k stack => ?_⟩
      rw [← Nat.add_assoc, ← hSteps k stack]
      simp only [skipSteps, hBlanks.skipBlanks_eq_cons (by decide : isBlank '\x7b' = false)]
      rfl

/-- The rest of a list is skipped in at most three steps for each of its characters. -/
theorem Elements.skipSteps_eq {first : Bool} {vs : List Value} {s r : List Char}
    (h : Elements first vs s r) :
    ∃ n, n + 2 + 3 * r.length ≤ 3 * s.length ∧
      ∀ k stack, skipSteps (k + n) (.inside first) (.list :: stack) s =
        skipSteps k .after stack r := by
  cases h with
  | close h =>
      have := h.length_le
      exact ⟨1, by simp at this; omega, skipSteps_closeList h⟩
  | element hSeparator hBlanks hValue hMore =>
      obtain ⟨t, hBlanks', hLength, hStep⟩ := skipSteps_element hSeparator hBlanks hValue
      obtain ⟨n, hn, hSteps⟩ := hValue.skipSteps_eq hBlanks'
      obtain ⟨m, hm, hSteps'⟩ := hMore.skipSteps_eq
      refine ⟨m + n + 1, by omega, fun k stack => ?_⟩
      rw [← Nat.add_assoc, hStep, ← Nat.add_assoc, hSteps]
      exact hSteps' k stack

theorem Members.skipSteps_eq {first : Bool} {ms : List (List Nat × Value)} {s r : List Char}
    (h : Members first ms s r) :
    ∃ n, n + 2 + 3 * r.length ≤ 3 * s.length ∧
      ∀ k stack, skipSteps (k + n) (.inside first) (.object :: stack) s =
        skipSteps k .after stack r := by
  cases h with
  | close h =>
      have := h.length_le
      exact ⟨1, by simp at this; omega, skipSteps_closeObject h⟩
  | member hSeparator hBlanks hKey hColon hBlanks' hValue hMore =>
      obtain ⟨hLength, hStep⟩ := skipSteps_member hSeparator hBlanks hKey hColon
      obtain ⟨n, hn, hSteps⟩ := hValue.skipSteps_eq hBlanks'
      obtain ⟨m, hm, hSteps'⟩ := hMore.skipSteps_eq
      refine ⟨m + n + 1, by omega, fun k stack => ?_⟩
      rw [← Nat.add_assoc, hStep, ← Nat.add_assoc, hSteps]
      exact hSteps' k stack

end

/-- A value takes up at least one character. -/
theorem Written.length_lt {v : Value} {s r : List Char} (h : Written v s r) :
    r.length < s.length := by
  obtain ⟨n, hn, -⟩ := h.skipSteps_eq (.refl s)
  omega

/-- A value is skipped just where one starts, and to its end. -/
theorem skipValue_eq_ok {s r : List Char} :
    skipValue s = .ok r ↔ ∃ v s', Blanks s s' ∧ Written v s' r := by
  constructor
  · intro h
    obtain ⟨v, s', t, hBlanks, hValue, rfl⟩ := spans_of_skipSteps h
    exact ⟨v, s', hBlanks, hValue⟩
  · rintro ⟨v, s', hBlanks, hValue⟩
    obtain ⟨n, hn, hSkip⟩ := hValue.skipSteps_eq hBlanks
    have hSteps := hSkip (3 * s.length + 2 - n + 1) []
    rw [show 3 * s.length + 2 - n + 1 + n = 3 * s.length + 3 by omega] at hSteps
    rw [skipValue, hSteps]
    rfl

end Iconsmith.Json
