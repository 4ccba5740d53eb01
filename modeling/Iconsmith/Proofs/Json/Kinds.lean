import Iconsmith.Proofs.Json.Skip
import Iconsmith.Proofs.Result

/-! Values of a kind that is asked for. A reader of a kind takes a value from
the text just where one of that kind stands. -/
namespace Iconsmith.Json

variable {α β : Type}

/-- The reader takes the values that mean something, as what they mean. -/
def Reads (reader : List Char → Reading α) (meaning : Value → Option α) : Prop :=
  ∀ s x r, reader s = .ok (x, r) ↔
    ∃ v s', Blanks s s' ∧ Written v s' r ∧ meaning v = some x

/-- What is made of the value makes no difference to reading it. -/
theorem Reads.map {reader : List Char → Reading α} {meaning : Value → Option α}
    (h : Reads reader meaning) (f : α → β) :
    Reads (fun s => (reader s).map fun (x, r) => (f x, r)) fun v => (meaning v).map f := by
  intro s y r
  simp only [map_eq_ok, Option.map_eq_some_iff, Prod.exists, Prod.mk.injEq]
  constructor
  · rintro ⟨x, t, hRead, rfl, rfl⟩
    obtain ⟨v, s', hBlanks, hValue, hx⟩ := (h s x t).mp hRead
    exact ⟨v, s', hBlanks, hValue, x, hx, rfl⟩
  · rintro ⟨v, s', hBlanks, hValue, x, hx, rfl⟩
    exact ⟨x, r, (h s x r).mpr ⟨v, s', hBlanks, hValue, hx⟩, rfl, rfl⟩

/-- A value starts behind all blanks. -/
theorem exists_written_iff {P : Value → Prop} {s r : List Char} :
    (∃ v s', Blanks s s' ∧ Written v s' r ∧ P v) ↔ ∃ v, Written v (skipBlanks s) r ∧ P v := by
  constructor
  · rintro ⟨v, s', hBlanks, hValue, h⟩
    exact ⟨v, hValue.skipBlanks_eq hBlanks ▸ hValue, h⟩
  · rintro ⟨v, hValue, h⟩
    exact ⟨v, _, blanks_skipBlanks s, hValue, h⟩

/-! ### Scalars -/

/-- A natural number below `bound`, written without sign, point and exponent. -/
def Value.natural? (bound : Nat) : Value → Option Nat
  | .number ⟨false, w, [], []⟩ => (Decimal.digitsFrom? 0 w).filter (· < bound)
  | _ => none

/-- A truth value. -/
def Value.bool? : Value → Option Bool
  | .bool b => some b
  | _ => none

/-- One of the known names, by itself or as the only key of an object that has
a null there. -/
def Value.name? (known : List String) : Value → Option String
  | .string us => named us
  | .object [(us, .null)] => named us
  | _ => none
where
  named (us : List Nat) : Option String := ((decode us).map String.ofList).filter (· ∈ known)

/-- A value means a natural number if it is a number in digits only, below the bound. -/
theorem natural?_eq_some {bound n : Nat} {v : Value} :
    v.natural? bound = some n ↔
      ∃ w, v = .number ⟨false, w, [], []⟩ ∧ Decimal.digitsFrom? 0 w = some n ∧ n < bound := by
  unfold Value.natural?
  split
  · next w => simp [Option.filter_eq_some_iff]
  · next hOther =>
    refine ⟨nofun, ?_⟩
    rintro ⟨w, rfl, -⟩
    exact (hOther w rfl).elim

/-- A number is accepted if it is natural and below the bound. -/
theorem judge_eq_ok {bound n : Nat} {expected : String} {number : Reading Number}
    {r : List Char} :
    readUnsigned.judge bound expected number = .ok (n, r) ↔
      number = .ok (.natural n, r) ∧ n < bound := by
  unfold readUnsigned.judge
  split
  · simp
  · next m t =>
    split
    · next h =>
      simp only [Except.ok.injEq, Prod.mk.injEq, Number.natural.injEq]
      exact ⟨fun ⟨hm, ht⟩ => ⟨⟨hm, ht⟩, hm ▸ h⟩, And.left⟩
    · next h =>
      simp only [reduceCtorEq, Except.ok.injEq, Prod.mk.injEq, Number.natural.injEq, false_iff]
      rintro ⟨⟨rfl, -⟩, h'⟩
      exact h h'
  · simp
  · simp

/-- A value that stands for a natural number is written with digits only. -/
theorem exists_natural_iff {bound n : Nat} {s r : List Char} :
    (∃ v, Written v s r ∧ v.natural? bound = some n) ↔
      ∃ w, Unsigned w [] [] s r ∧ Decimal.digitsFrom? 0 w = some n ∧ n < bound := by
  simp only [natural?_eq_some]
  constructor
  · rintro ⟨v, hValue, w, rfl, h⟩
    cases hValue with
    | number hValue =>
        cases hValue with
        | positive hValue => exact ⟨w, hValue, h⟩
  · rintro ⟨w, hValue, h⟩
    exact ⟨_, .number (.positive hValue), w, rfl, h⟩

/-- Natural numbers are read as what they mean. -/
theorem reads_unsigned {bound : Nat} (hBound : bound ≤ maxExact + 1) (expected : String) :
    Reads (readUnsigned bound expected) (Value.natural? bound) := by
  intro s n r
  rw [exists_written_iff, exists_natural_iff]
  unfold readUnsigned
  generalize skipBlanks s = t
  split
  · next t =>
    constructor
    · intro h
      exact absurd (judge_eq_ok.mp h).1 readNumber_ne_natural
    · rintro ⟨w, hWritten, -⟩
      obtain ⟨c, t', hEq, hc⟩ := hWritten.exists_cons
      exact absurd ((List.cons.inj hEq).1 ▸ hc) not_isDigit_minus
  · next t hMinus =>
    split
    · next c t =>
      split
      · rw [judge_eq_ok, readNumber_eq_natural]
        constructor
        · rintro ⟨⟨w, hWritten, hDigits, -⟩, hn⟩
          exact ⟨w, hWritten, hDigits, hn⟩
        · rintro ⟨w, hWritten, hDigits, hn⟩
          exact ⟨⟨w, hWritten, hDigits, by omega⟩, hn⟩
      · next hc =>
        refine ⟨nofun, ?_⟩
        rintro ⟨w, hWritten, -⟩
        obtain ⟨d, t', hEq, hd⟩ := hWritten.exists_cons
        exact absurd ((isSome_digit? c).mpr ((List.cons.inj hEq).1 ▸ hd)) hc
    · refine ⟨nofun, ?_⟩
      rintro ⟨w, hWritten, -⟩
      exact nomatch hWritten.exists_cons

theorem readWord_map_eq_ok {ws s r : List Char} {x y : α} :
    ((readWord ws s).map fun r => (x, r)) = .ok (y, r) ↔ y = x ∧ s = ws ++ r := by
  simp only [map_eq_ok, readWord_eq_ok, Prod.mk.injEq]
  constructor
  · rintro ⟨u, rfl, rfl, rfl⟩
    exact ⟨rfl, rfl⟩
  · rintro ⟨rfl, rfl⟩
    exact ⟨r, rfl, rfl, rfl⟩

theorem reads_bool : Reads readBool Value.bool? := by
  intro s b r
  have hBool (v : Value) : v.bool? = some b ↔ v = .bool b := by
    cases v <;> simp [Value.bool?]
  simp only [exists_written_iff, hBool, exists_eq_right]
  unfold readBool
  generalize skipBlanks s = t
  split
  · simp [readWord_map_eq_ok, written_true_iff]
  · simp [readWord_map_eq_ok, written_false_iff]
  · next hTrue hFalse =>
    refine ⟨nofun, fun h => ?_⟩
    cases h with
    | boolTrue => exact (hTrue _ rfl).elim
    | boolFalse => exact (hFalse _ rfl).elim

/-- A null is read where one is written, behind blanks. -/
theorem readNull_eq_ok {s r : List Char} :
    readNull s = .ok r ↔ ∃ s', Blanks s s' ∧ Written .null s' r := by
  unfold readNull
  constructor
  · intro h
    split at h
    · next t hHead =>
      obtain rfl := readWord_eq_ok.mp h
      exact ⟨_, (blanks_cons_iff (by decide)).mpr hHead, .null⟩
    · exact nomatch h
  · rintro ⟨s', hBlanks, hNull⟩
    rw [hNull.skipBlanks_eq hBlanks]
    cases hNull with
    | null => simp [readWord]

theorem readColon_eq_ok {s r : List Char} : readColon s = .ok r ↔ Blanks s (':' :: r) := by
  rw [blanks_cons_iff (by decide)]
  unfold readColon
  split
  · next h => simp [h]
  · next h => simp [h]
  · next h _ => exact ⟨nofun, fun hEq => (h r hEq).elim⟩

/-! ### Names -/

/-- A name is a string, or an object whose only member is named so and holds nothing. -/
theorem name?_eq_some {known : List String} {name : String} {v : Value} :
    v.name? known = some name ↔
      ∃ us, (v = .string us ∨ v = .object [(us, .null)]) ∧
        Value.name?.named known us = some name := by
  unfold Value.name?
  split
  · simp
  · simp
  · next hString hObject =>
    refine ⟨nofun, ?_⟩
    rintro ⟨us, rfl | rfl, -⟩
    · exact (hString us rfl).elim
    · exact (hObject us rfl).elim

/-- A string is accepted as a name if it is one of those known. -/
theorem readString_named {known : List String} {name : String} {s r : List Char} :
    (∃ t u, readString s = .ok (t, u) ∧ readName.judge known t u = .ok (name, r)) ↔
      ∃ us, Units us s r ∧ Value.name?.named known us = some name := by
  simp only [readString_eq_ok, Chars, readName.judge, Value.name?.named]
  constructor
  · rintro ⟨t, u, ⟨us, hUnits, hDecode⟩, hJudge⟩
    split at hJudge
    · next hKnown =>
      simp only [Except.ok.injEq, Prod.mk.injEq] at hJudge
      obtain ⟨rfl, rfl⟩ := hJudge
      exact ⟨us, hUnits, by simp [hDecode, hKnown]⟩
    · cases hJudge
  · rintro ⟨us, hUnits, hNamed⟩
    obtain ⟨hText, hKnown⟩ := Option.filter_eq_some_iff.mp hNamed
    obtain ⟨t, hDecode, rfl⟩ := Option.map_eq_some_iff.mp hText
    exact ⟨t, r, ⟨us, hUnits, hDecode⟩, by simpa using hKnown⟩

/-- Behind a name as a key a null must follow, and the end of the object. -/
theorem readNullMember_eq_ok {s r : List Char} :
    readNullMember s = .ok r ↔ ∃ t u w, Blanks s (':' :: t) ∧ (Blanks t u ∧ Written .null u w) ∧
      Blanks w ('\x7d' :: r) := by
  simp only [readNullMember, bind_eq_ok, readColon_eq_ok, readNull_eq_ok,
    blanks_cons_iff (by decide : isBlank '\x7d' = false)]
  constructor
  · rintro ⟨t, hColon, w, ⟨u, hNull⟩, hEnd⟩
    split at hEnd
    · next hBrace =>
      obtain rfl := Except.ok.inj hEnd
      exact ⟨t, u, w, hColon, hNull, hBrace⟩
    · exact nomatch hEnd
    · exact nomatch hEnd
  · rintro ⟨t, u, w, hColon, hNull, hBrace⟩
    exact ⟨t, hColon, w, ⟨u, hNull⟩, by simp [hBrace]⟩

/-- An object with one member, which is a null. -/
theorem written_single_iff {us : List Nat} {s r : List Char} :
    Written (.object [(us, .null)]) ('\x7b' :: s) r ↔
      ∃ t u, skipBlanks s = '"' :: t ∧ Units us t u ∧ readNullMember u = .ok r := by
  simp only [readNullMember_eq_ok, ← blanks_cons_iff (by decide : isBlank '"' = false)]
  constructor
  · intro h
    obtain ⟨ms, hSame, hMembers⟩ := written_object_iff.mp h
    obtain rfl := Value.object.inj hSame
    cases hMembers with
    | member hSeparator hBlanks hKey hColon hBlanks' hValue hMore =>
        cases hSeparator
        cases hMore with
        | close hEnd => exact ⟨_, _, hBlanks, hKey, _, _, _, hColon, ⟨hBlanks', hValue⟩, hEnd⟩
  · rintro ⟨t, u, hBlanks, hKey, t', u', w, hColon, ⟨hBlanks', hValue⟩, hEnd⟩
    exact .object (.member .first hBlanks hKey hColon hBlanks' hValue (.close hEnd))

/-- Behind an opening brace a name can only be the key of an object. -/
theorem exists_name_object_iff {known : List String} {name : String} {t r : List Char} :
    (∃ v, Written v ('\x7b' :: t) r ∧ ∃ us, (v = .string us ∨ v = .object [(us, .null)]) ∧
        Value.name?.named known us = some name) ↔
      ∃ us, Written (.object [(us, .null)]) ('\x7b' :: t) r ∧
        Value.name?.named known us = some name := by
  constructor
  · rintro ⟨_, hValue, us, rfl | rfl, h⟩
    · exact nomatch written_object_iff.mp hValue
    · exact ⟨us, hValue, h⟩
  · rintro ⟨us, hValue, h⟩
    exact ⟨_, hValue, us, .inr rfl, h⟩

/-- In either form names are read as what they mean. -/
theorem reads_name (known : List String) : Reads (readName known) (Value.name? known) := by
  intro s name r
  simp only [exists_written_iff, name?_eq_some]
  unfold readName
  generalize skipBlanks s = t
  split
  · exact ⟨nofun, fun ⟨v, h, _⟩ => nomatch h.exists_cons⟩
  · simp only [bind_eq_ok, Prod.exists, readString_named, written_string_iff]
    constructor
    · rintro ⟨us, hUnits, h⟩
      exact ⟨_, ⟨us, rfl, hUnits⟩, us, .inl rfl, h⟩
    · rintro ⟨_, ⟨us, rfl, hUnits⟩, us', hSame | hOther, h⟩
      · exact ⟨us, hUnits, by rw [Value.string.inj hSame, h]⟩
      · exact nomatch hOther
  · next t =>
    simp only [exists_name_object_iff, written_single_iff]
    split
    · next t' hKey =>
      simp only [bind_eq_ok, Prod.exists, hKey, List.cons.injEq, true_and, pure, Except.pure,
        Except.ok.injEq, Prod.mk.injEq]
      constructor
      · rintro ⟨text, u, hString, name', u', hJudge, w, hNull, rfl, rfl⟩
        obtain ⟨us, hUnits, hNamed⟩ := readString_named.mp ⟨text, u, hString, hJudge⟩
        exact ⟨us, ⟨t', u', rfl, hUnits, hNull⟩, hNamed⟩
      · rintro ⟨us, ⟨_, u', rfl, hUnits, hNull⟩, hNamed⟩
        obtain ⟨text, u, hString, hJudge⟩ := readString_named.mpr ⟨us, hUnits, hNamed⟩
        exact ⟨text, u, hString, name, u', hJudge, r, hNull, rfl, rfl⟩
    · next hNil => simp [hNil]
    · next hEnd => simp [hEnd]
    · next hOther _ _ =>
      refine ⟨nofun, ?_⟩
      rintro ⟨us, ⟨t', u, hKey, -⟩, -⟩
      exact (hOther t' hKey).elim
  · next hNil hString hObject =>
    refine ⟨nofun, ?_⟩
    rintro ⟨_, hValue, us, rfl | rfl, -⟩
    · cases hValue with
      | string _ => exact (hString _ rfl).elim
    · cases hValue with
      | object _ => exact (hObject _ rfl).elim

end Iconsmith.Json
