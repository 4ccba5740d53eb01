import Iconsmith.Proofs.Json.Kinds

/-! The members of an object and the elements of a list, one after the other. -/
namespace Iconsmith.Json

variable {α : Type}

/-! ### Elements -/

/-- A list is at its end where its bracket follows. -/
theorem readElement?_of_close {first : Bool} {s r : List Char} (h : Blanks s (']' :: r)) :
    readElement? first s = .ok (false, ']' :: r) := by
  simp [readElement?, h.skipBlanks_eq_cons (by decide)]

/-- Otherwise a separator is passed, unless the element is the first. -/
theorem readElement?_of_element {first : Bool} {v : Value} {s s₁ s₂ s₃ : List Char}
    (hSeparator : Separator first s s₁) (hBlanks : Blanks s₁ s₂) (hValue : Written v s₂ s₃) :
    readElement? first s = .ok (true, s₂) := by
  have hNext := hValue.skipBlanks_eq hBlanks
  obtain ⟨c, t, rfl, -, hBracket, -⟩ := hValue.exists_cons
  cases hSeparator with
  | first => simp [readElement?, hNext]
  | comma h => simp [readElement?, h.skipBlanks_eq_cons (by decide), hNext, hBracket]

/-- A list goes on in front of its closing bracket or of an element. -/
theorem readElement?_eq_ok {first more : Bool} {s t : List Char}
    (h : readElement? first s = .ok (more, t)) :
    (more = false ∧ ∃ r, t = ']' :: r ∧ Blanks s (']' :: r)) ∨
      more = true ∧ ∃ s₁, Separator first s s₁ ∧ Blanks s₁ t := by
  unfold readElement? at h
  split at h
  · exact nomatch h
  · next r hEnd =>
    obtain ⟨rfl, rfl⟩ := by simpa using h
    exact .inl ⟨rfl, r, rfl, (blanks_cons_iff (by decide)).mpr hEnd⟩
  · next c r _ hNext =>
    split at h
    · next hFirst =>
      subst hFirst
      obtain ⟨rfl, rfl⟩ := by simpa using h
      exact .inr ⟨rfl, s, .first, hNext ▸ blanks_skipBlanks s⟩
    · next hFirst =>
      obtain rfl : first = false := by simpa using hFirst
      split at h
      · next hComma =>
        subst hComma
        split at h
        · exact nomatch h
        · exact nomatch h
        · obtain ⟨rfl, rfl⟩ := by simpa using h
          exact .inr ⟨rfl, r, separator_of_skipBlanks hNext, blanks_skipBlanks r⟩
      · exact nomatch h

/-- Another element comes if the list is not closed. -/
theorem elements_of_more {first : Bool} {vs : List Value} {s t r : List Char}
    (h : readElement? first s = .ok (true, t)) :
    Elements first vs s r ↔
      ∃ v ws t' u, vs = v :: ws ∧ Blanks t t' ∧ Written v t' u ∧ Elements false ws u r := by
  constructor
  · intro hElements
    cases hElements with
    | close hEnd => exact nomatch h.symm.trans (readElement?_of_close hEnd)
    | element hSeparator hBlanks hValue hMore =>
        have hSame := h.symm.trans (readElement?_of_element hSeparator hBlanks hValue)
        obtain rfl := by simpa using hSame
        exact ⟨_, _, t, _, rfl, .refl t, hValue, hMore⟩
  · rintro ⟨v, ws, t', u, rfl, hBlanks, hValue, hMore⟩
    obtain ⟨hFalse, -⟩ | ⟨-, s₁, hSeparator, hBlanks'⟩ := readElement?_eq_ok h
    · exact nomatch hFalse
    exact .element hSeparator (hBlanks'.trans hBlanks) hValue hMore

theorem elements_of_last {first : Bool} {vs : List Value} {s t r : List Char}
    (h : readElement? first s = .ok (false, t)) :
    Elements first vs s r ↔ vs = [] ∧ t = ']' :: r := by
  constructor
  · intro hElements
    cases hElements with
    | close hEnd => exact ⟨rfl, by simpa using h.symm.trans (readElement?_of_close hEnd)⟩
    | element hSeparator hBlanks hValue _ =>
        exact nomatch h.symm.trans (readElement?_of_element hSeparator hBlanks hValue)
  · rintro ⟨rfl, rfl⟩
    obtain ⟨-, r', hEq, hEnd⟩ | ⟨hTrue, -⟩ := readElement?_eq_ok h
    · exact .close (hEq ▸ hEnd)
    · exact nomatch hTrue

/-- Where neither follows no list goes on. -/
theorem not_elements {first : Bool} {f : Fault} {s : List Char}
    (h : readElement? first s = .error f) (vs : List Value) (r : List Char) :
    ¬Elements first vs s r := by
  intro hElements
  cases hElements with
  | close hEnd => exact nomatch h.symm.trans (readElement?_of_close hEnd)
  | element hSeparator hBlanks hValue _ =>
      exact nomatch h.symm.trans (readElement?_of_element hSeparator hBlanks hValue)

theorem elements_nil_iff {first : Bool} {s r : List Char} :
    Elements first [] s r ↔ closeList s = .ok r := by
  have hClose : Elements first [] s r ↔ skipBlanks s = ']' :: r := by
    rw [← blanks_cons_iff (by decide)]
    exact ⟨fun h => by cases h; assumption, .close⟩
  rw [hClose]
  unfold closeList
  split
  · next h => simp [h]
  · next h => simp [h]
  · next h => simp only [h]; split <;> simp
  · next h _ _ => exact ⟨fun hEq => (h r hEq).elim, nofun⟩

section

variable {first : Bool} {s t r : List Char} {P : List Value → Prop}

theorem exists_elements_of_last (h : readElement? first s = .ok (false, t)) :
    (∃ vs, Elements first vs s r ∧ P vs) ↔ t = ']' :: r ∧ P [] := by
  simp only [elements_of_last h]
  exact ⟨fun ⟨_, ⟨hNil, ht⟩, hP⟩ => ⟨ht, hNil ▸ hP⟩, fun ⟨ht, hP⟩ => ⟨[], ⟨rfl, ht⟩, hP⟩⟩

/-- An element that is read. -/
theorem exists_elements_of_reads {reader : List Char → Reading α} {meaning : Value → Option α}
    (hReads : Reads reader meaning) {Q : α → List Value → Prop}
    (h : readElement? first s = .ok (true, t))
    (hP : ∀ v vs, P (v :: vs) ↔ ∃ x, meaning v = some x ∧ Q x vs) :
    (∃ vs, Elements first vs s r ∧ P vs) ↔
      ∃ x u, reader t = .ok (x, u) ∧ ∃ vs, Elements false vs u r ∧ Q x vs := by
  simp only [elements_of_more h, hReads _ _ _]
  constructor
  · rintro ⟨_, ⟨v, vs, t', u, rfl, hBlanks, hValue, hMore⟩, hAll⟩
    obtain ⟨x, hx, hQ⟩ := (hP v vs).mp hAll
    exact ⟨x, u, ⟨v, t', hBlanks, hValue, hx⟩, vs, hMore, hQ⟩
  · rintro ⟨x, u, ⟨v, t', hBlanks, hValue, hx⟩, vs, hMore, hQ⟩
    exact ⟨v :: vs, ⟨v, vs, t', u, rfl, hBlanks, hValue, hMore⟩, (hP v vs).mpr ⟨x, hx, hQ⟩⟩

end

/-! ### Members -/

/-- Members with their keys as texts, if these all are texts. -/
def keyed? : List (List Nat × Value) → Option (List (String × Value))
  | [] => some []
  | (us, v) :: ms => do
    let cs ← decode us
    let ms ← keyed? ms
    return (String.ofList cs, v) :: ms

/-- The members up to the closing brace, with texts as keys. -/
def Entries (first : Bool) (ms : List (String × Value)) (s r : List Char) : Prop :=
  ∃ raw, Members first raw s r ∧ keyed? raw = some ms

/-- Members have keys if each key stands for a text. -/
theorem keyed?_cons {us : List Nat} {v : Value} {raw : List (List Nat × Value)}
    {ms : List (String × Value)} :
    keyed? ((us, v) :: raw) = some ms ↔
      ∃ cs ns, decode us = some cs ∧ keyed? raw = some ns ∧ ms = (String.ofList cs, v) :: ns := by
  simp only [keyed?]
  cases decode us <;> cases keyed? raw <;> simp [eq_comm]

theorem readKey?_of_close {first : Bool} {s r : List Char} (h : Blanks s ('\x7d' :: r)) :
    readKey? first s = .ok (none, '\x7d' :: r) := by
  simp [readKey?, h.skipBlanks_eq_cons (by decide)]

/-- Where an object goes on, a separator is passed and a key is read. -/
theorem readKey?_of_member {first : Bool} {key s s₁ s₂ s₃ : List Char}
    (hSeparator : Separator first s s₁) (hBlanks : Blanks s₁ ('"' :: s₂)) (hKey : Chars key s₂ s₃) :
    readKey? first s = .ok (some key, s₃) := by
  have hNext := hBlanks.skipBlanks_eq_cons (by decide)
  have hRead := readString_eq_ok.mpr hKey
  cases hSeparator with
  | first => simp [readKey?, readKey?.key, hNext, hRead, Except.map]
  | comma h =>
      simp [readKey?, readKey?.key, h.skipBlanks_eq_cons (by decide), hNext, hRead, Except.map]

theorem key_eq_ok {k : Option (List Char)} {s r : List Char} :
    readKey?.key s = .ok (k, r) ↔ ∃ key, k = some key ∧ Chars key s r := by
  simp only [readKey?.key, map_eq_ok, Prod.exists, readString_eq_ok, Prod.mk.injEq]
  constructor
  · rintro ⟨key, t, hKey, rfl, rfl⟩
    exact ⟨key, rfl, hKey⟩
  · rintro ⟨key, rfl, hKey⟩
    exact ⟨key, r, hKey, rfl, rfl⟩

/-- A key is read in front of the closing brace or of a member. -/
theorem readKey?_eq_ok {first : Bool} {k : Option (List Char)} {s t : List Char}
    (h : readKey? first s = .ok (k, t)) :
    (k = none ∧ ∃ r, t = '\x7d' :: r ∧ Blanks s ('\x7d' :: r)) ∨
      ∃ key s₁ s₂, k = some key ∧ Separator first s s₁ ∧ Blanks s₁ ('"' :: s₂) ∧
        Chars key s₂ t := by
  unfold readKey? at h
  split at h
  · exact nomatch h
  · next r hEnd =>
    obtain ⟨rfl, rfl⟩ := by simpa using h
    exact .inl ⟨rfl, r, rfl, (blanks_cons_iff (by decide)).mpr hEnd⟩
  · next c r _ hNext =>
    split at h
    · next hFirst =>
      subst hFirst
      split at h
      · next hQuote =>
        subst hQuote
        obtain ⟨key, rfl, hKey⟩ := key_eq_ok.mp h
        exact .inr ⟨key, s, r, rfl, .first, hNext ▸ blanks_skipBlanks s, hKey⟩
      · exact nomatch h
    · next hFirst =>
      obtain rfl : first = false := by simpa using hFirst
      split at h
      · next hComma =>
        subst hComma
        split at h
        · next r' hQuote =>
          obtain ⟨key, rfl, hKey⟩ := key_eq_ok.mp h
          exact .inr ⟨key, r, r', rfl, separator_of_skipBlanks hNext,
            hQuote ▸ blanks_skipBlanks r, hKey⟩
        · exact nomatch h
        · exact nomatch h
        · exact nomatch h
      · exact nomatch h

/-- Behind a key follow a colon, a value and the rest of the members. -/
theorem entries_of_key {first : Bool} {ms : List (String × Value)} {key s t r : List Char}
    (h : readKey? first s = .ok (some key, t)) :
    Entries first ms s r ↔ ∃ u v u' w ns, ms = (String.ofList key, v) :: ns ∧
      readColon t = .ok u ∧ Blanks u u' ∧ Written v u' w ∧ Entries false ns w r := by
  simp only [readColon_eq_ok]
  constructor
  · rintro ⟨raw, hMembers, hKeyed⟩
    cases hMembers with
    | close hEnd => exact nomatch h.symm.trans (readKey?_of_close hEnd)
    | member hSeparator hBlanks hKey hColon hBlanks' hValue hMore =>
        obtain ⟨cs, ns, hDecode, hRest, rfl⟩ := keyed?_cons.mp hKeyed
        have hSame := h.symm.trans (readKey?_of_member hSeparator hBlanks ⟨_, hKey, hDecode⟩)
        obtain ⟨rfl, rfl⟩ := by simpa using hSame
        exact ⟨_, _, _, _, ns, rfl, hColon, hBlanks', hValue, _, hMore, hRest⟩
  · rintro ⟨u, v, u', w, ns, rfl, hColon, hBlanks', hValue, raw, hMore, hKeyed⟩
    obtain ⟨hNone, -⟩ | ⟨key', s₁, s₂, hKey, hSeparator, hBlanks, us, hUnits, hDecode⟩ :=
      readKey?_eq_ok h
    · exact nomatch hNone
    obtain rfl := Option.some.inj hKey
    exact ⟨_, .member hSeparator hBlanks hUnits hColon hBlanks' hValue hMore,
      keyed?_cons.mpr ⟨key, ns, hDecode, hKeyed, rfl⟩⟩

theorem entries_of_end {first : Bool} {ms : List (String × Value)} {s t r : List Char}
    (h : readKey? first s = .ok (none, t)) : Entries first ms s r ↔ ms = [] ∧ t = '\x7d' :: r := by
  constructor
  · rintro ⟨raw, hMembers, hKeyed⟩
    cases hMembers with
    | close hEnd =>
        exact ⟨(Option.some.inj hKeyed).symm, by simpa using h.symm.trans (readKey?_of_close hEnd)⟩
    | member hSeparator hBlanks hKey _ _ _ _ =>
        obtain ⟨cs, _, hDecode, _⟩ := keyed?_cons.mp hKeyed
        exact nomatch h.symm.trans (readKey?_of_member hSeparator hBlanks ⟨_, hKey, hDecode⟩)
  · rintro ⟨rfl, rfl⟩
    obtain ⟨-, r', hEq, hEnd⟩ | ⟨_, _, _, hSome, -⟩ := readKey?_eq_ok h
    · exact ⟨[], .close (hEq ▸ hEnd), rfl⟩
    · exact nomatch hSome

theorem not_entries {first : Bool} {f : Fault} {s : List Char} (h : readKey? first s = .error f)
    (ms : List (String × Value)) (r : List Char) : ¬Entries first ms s r := by
  rintro ⟨raw, hMembers, hKeyed⟩
  cases hMembers with
  | close hEnd => exact nomatch h.symm.trans (readKey?_of_close hEnd)
  | member hSeparator hBlanks hKey _ _ _ _ =>
      obtain ⟨cs, _, hDecode, _⟩ := keyed?_cons.mp hKeyed
      exact nomatch h.symm.trans (readKey?_of_member hSeparator hBlanks ⟨_, hKey, hDecode⟩)

/-! ### One member more -/

section

variable {first : Bool} {key s t r : List Char} {P : List (String × Value) → Prop}

theorem length_lt_of_member (hKey : readKey? first s = .ok (some key, t)) {u w : List Char}
    (hColon : readColon t = .ok u) (hValue : ∃ v u', Blanks u u' ∧ Written v u' w) :
    w.length < s.length := by
  obtain ⟨hNone, -⟩ | ⟨_, s₁, s₂, -, hSeparator, hBlanks, us, hUnits, -⟩ := readKey?_eq_ok hKey
  · exact nomatch hNone
  obtain ⟨v, u', hBlanks', hValue⟩ := hValue
  have hFirst : s₁.length ≤ s.length := by
    cases hSeparator with
    | first => exact Nat.le_refl _
    | comma h => exact Nat.le_of_succ_le h.length_le
  have hNext := hBlanks.length_le
  have hText := hUnits.length_lt
  have hRest := (readColon_eq_ok.mp hColon).length_le
  have hBehind := hBlanks'.length_le
  have hLast := hValue.length_lt
  simp only [List.length_cons] at hNext hRest
  omega

/-- The members end here. -/
theorem exists_entries_of_end (hKey : readKey? first s = .ok (none, t)) :
    (∃ ms, Entries first ms s r ∧ P ms) ↔ closeObject t = .ok r ∧ P [] := by
  obtain ⟨-, t', rfl, -⟩ | ⟨_, _, _, hSome, -⟩ := readKey?_eq_ok hKey
  · simp only [entries_of_end hKey, List.cons.injEq, true_and]
    have hClose : closeObject ('\x7d' :: t') = .ok r ↔ t' = r := by
      simp [closeObject, skipBlanks, isBlank]
    rw [hClose]
    constructor
    · rintro ⟨_, ⟨rfl, h⟩, hP⟩
      exact ⟨h, hP⟩
    · rintro ⟨h, hP⟩
      exact ⟨_, ⟨rfl, h⟩, hP⟩
  · cases hSome

/-- Looking for members that have a property is looking for the first one and then for the
others. -/
theorem exists_entries_of_key (hKey : readKey? first s = .ok (some key, t)) :
    (∃ ms, Entries first ms s r ∧ P ms) ↔
      ∃ u v w ns, readColon t = .ok u ∧ (∃ u', Blanks u u' ∧ Written v u' w) ∧
        Entries false ns w r ∧ P ((String.ofList key, v) :: ns) := by
  simp only [entries_of_key hKey]
  constructor
  · rintro ⟨_, ⟨u, v, u', w, ns, rfl, hColon, hBlanks, hValue, hMore⟩, hP⟩
    exact ⟨u, v, w, ns, hColon, ⟨u', hBlanks, hValue⟩, hMore, hP⟩
  · rintro ⟨u, v, w, ns, hColon, ⟨u', hBlanks, hValue⟩, hMore, hP⟩
    exact ⟨_, ⟨u, v, u', w, ns, rfl, hColon, hBlanks, hValue, hMore⟩, hP⟩

/-- A loop reads the value of a member and goes on, unless the key is taken. -/
theorem readMember_eq_ok {β : Type} {reader : List Char → Reading α} {meaning : Value → Option α}
    (hReads : Reads reader meaning) {Q : α → List (String × Value) → Prop} {taken : Prop}
    [Decidable taken] {fault : Fault} (more : α → List Char → Except Fault (β × List Char)) {y : β}
    (hKey : readKey? first s = .ok (some key, t))
    (hP : ∀ v ns, P ((String.ofList key, v) :: ns) ↔ ¬taken ∧ ∃ x, meaning v = some x ∧ Q x ns)
    (hMore : ∀ x w, w.length < s.length →
      (more x w = .ok (y, r) ↔ ∃ ns, Entries false ns w r ∧ Q x ns)) :
    ((if taken then .error fault else do
        let u ← readColon t
        let result ← reader u
        more result.1 result.2) : Except Fault (β × List Char)) = .ok (y, r) ↔
      ∃ ms, Entries first ms s r ∧ P ms := by
  simp only [exists_entries_of_key hKey, hP]
  split
  · next hTaken => simp [hTaken]
  · next hFree =>
    simp only [bind_eq_ok, Prod.exists]
    constructor
    · rintro ⟨u, hColon, x, w, hRead, hRest⟩
      obtain ⟨v, u', hBlanks, hValue, hx⟩ := (hReads u x w).mp hRead
      have hLess := length_lt_of_member hKey hColon ⟨v, u', hBlanks, hValue⟩
      obtain ⟨ns, hEntries, hQ⟩ := (hMore x w hLess).mp hRest
      exact ⟨u, v, w, ns, hColon, ⟨u', hBlanks, hValue⟩, hEntries, hFree, x, hx, hQ⟩
    · rintro ⟨u, v, w, ns, hColon, ⟨u', hBlanks, hValue⟩, hEntries, -, x, hx, hQ⟩
      have hLess := length_lt_of_member hKey hColon ⟨v, u', hBlanks, hValue⟩
      exact ⟨u, hColon, x, w, (hReads u x w).mpr ⟨v, u', hBlanks, hValue, hx⟩,
        (hMore x w hLess).mpr ⟨ns, hEntries, hQ⟩⟩

/-- A loop skips the value of a member that it does not know. -/
theorem skipMember_eq_ok {β : Type} (more : List Char → Except Fault (β × List Char)) {y : β}
    (hKey : readKey? first s = .ok (some key, t))
    (hP : ∀ v ns, P ((String.ofList key, v) :: ns) ↔ P ns)
    (hMore : ∀ w, w.length < s.length →
      (more w = .ok (y, r) ↔ ∃ ns, Entries false ns w r ∧ P ns)) :
    (do
        let u ← readColon t
        let w ← skipValue u
        more w : Except Fault (β × List Char)) = .ok (y, r) ↔
      ∃ ms, Entries first ms s r ∧ P ms := by
  simp only [exists_entries_of_key hKey, hP, bind_eq_ok, skipValue_eq_ok]
  constructor
  · rintro ⟨u, hColon, w, ⟨v, u', hBlanks, hValue⟩, hRest⟩
    have hLess := length_lt_of_member hKey hColon ⟨v, u', hBlanks, hValue⟩
    obtain ⟨ns, hEntries, hAll⟩ := (hMore w hLess).mp hRest
    exact ⟨u, v, w, ns, hColon, ⟨u', hBlanks, hValue⟩, hEntries, hAll⟩
  · rintro ⟨u, v, w, ns, hColon, ⟨u', hBlanks, hValue⟩, hEntries, hAll⟩
    have hLess := length_lt_of_member hKey hColon ⟨v, u', hBlanks, hValue⟩
    exact ⟨u, hColon, w, ⟨v, u', hBlanks, hValue⟩, (hMore w hLess).mpr ⟨ns, hEntries, hAll⟩⟩

end

/-! ### Members by their keys -/

/-- The values that are given for a key. -/
def given (key : String) (ms : List (String × Value)) : List Value :=
  (ms.filter fun m => m.1 = key).map Prod.snd

theorem given_cons_self (key : String) (v : Value) (ms : List (String × Value)) :
    given key ((key, v) :: ms) = v :: given key ms := by
  simp [given]

/-- A member with another key does not count. -/
theorem given_cons_of_ne {key key' : String} (h : key' ≠ key) (v : Value)
    (ms : List (String × Value)) : given key ((key', v) :: ms) = given key ms := by
  simp [given, h]

/-- Members give `x` for a key: they say so once, which they may do if the key
is still `free`, or they do not say anything and it stands for `x` as yet. -/
def Slot (key : String) (meaning : Value → Option α) (free : Prop) (current : Option α)
    (ms : List (String × Value)) (x : α) : Prop :=
  given key ms = [] ∧ current = some x ∨ free ∧ ∃ v, given key ms = [v] ∧ meaning v = some x

variable {key : String} {meaning : Value → Option α} {free : Prop} {current : Option α} {x : α}

theorem slot_nil : Slot key meaning free current [] x ↔ current = some x := by
  simp [Slot, given]

/-- A member with another key leaves the slot alone. -/
theorem slot_cons_of_ne {key' : String} (h : key' ≠ key) (v : Value) (ms : List (String × Value)) :
    Slot key meaning free current ((key', v) :: ms) x ↔ Slot key meaning free current ms x := by
  simp only [Slot, given_cons_of_ne h]

/-- A member takes its key: behind it the key is not free. -/
theorem slot_cons_self (v : Value) (ms : List (String × Value)) :
    Slot key meaning free current ((key, v) :: ms) x ↔
      free ∧ ∃ y, meaning v = some y ∧ Slot key meaning False (some y) ms x := by
  simp only [Slot, given_cons_self, reduceCtorEq, false_and, false_or, or_false, List.cons.injEq,
    Option.some.injEq]
  constructor
  · rintro ⟨hFree, w, ⟨rfl, hMore⟩, hx⟩
    exact ⟨hFree, x, hx, hMore, rfl⟩
  · rintro ⟨hFree, y, hx, hMore, rfl⟩
    exact ⟨hFree, v, ⟨rfl, hMore⟩, hx⟩

end Iconsmith.Json
