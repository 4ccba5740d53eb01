import Mathlib.Data.List.TakeDrop
import Mathlib.Data.List.TakeWhile
import Iconsmith.Xml.Reader

/-! Documents of plain tags: names without prefixes and values in which every character stands
for itself. What is written in this way is read as it is written. -/
namespace Iconsmith.Xml

/-- A step that has succeeded hands its result and its state on. -/
theorem run_bind_of_ok {σ ε α β : Type} {x : StateT σ (Except ε) α} {f : α → StateT σ (Except ε) β}
    {s s' : σ} {a : α} (h : x.run s = .ok (a, s')) : (x >>= f).run s = (f a).run s' := by
  rw [StateT.run_bind, h]
  rfl

theorem ok_bind {ε α β : Type} (a : α) (f : α → Except ε β) : (Except.ok a >>= f) = f a := rfl

/-! ### Scanning -/

/-- The scanner behind some characters and in front of others, with more text beyond its end. -/
def Scanner.between (done rest beyond : List Char) : Scanner :=
  ⟨(done ++ (rest ++ beyond)).toArray, done.length, done.length + rest.length⟩

namespace Scanner

variable {done rest beyond word : List Char}

/-- A scanner sees the characters that are left, and none of those beyond its end. -/
theorem peek?_between (k : Nat) : (between done rest beyond).peek? k = rest[k]? := by
  simp only [peek?, between, List.getElem?_toArray, Nat.add_lt_add_iff_left]
  split
  · next h =>
    rw [List.getElem?_append_right (Nat.le_add_right _ _), Nat.add_sub_cancel_left,
      List.getElem?_append_left h]
  · next h => rw [List.getElem?_eq_none (Nat.le_of_not_lt h)]

theorem atEnd_between : (between done rest beyond).atEnd = rest.isEmpty := by
  cases rest <;> simp [atEnd, between]

/-- A word that is skipped moves from what is left to what is done. -/
theorem skip_between : (between done (word ++ rest) beyond).skip word.length =
    between (done ++ word) rest beyond := by
  simp [skip, between, Nat.add_assoc]

/-- The text since a place is what has been done since. -/
theorem since_between :
    (between (done ++ word) rest beyond).since done.length = String.ofList word := by
  simp [since, between, List.extract_eq_take_drop]

/-- The first character is refused, or there is none. -/
def Refuses (ok : Nat → Char → Bool) (rest : List Char) : Prop :=
  ∀ c ∈ rest.head?, ∀ i, ok i c = false

variable {ok : Nat → Char → Bool}

/-- A search passes over a word of accepted characters and stops behind it. -/
theorem find_of_text {s : Scanner} (hText : s.text = (done ++ (word ++ (rest ++ beyond))).toArray)
    (hWord : ∀ c ∈ word, ∀ i, ok i c = true) (hRest : Refuses ok rest) :
    s.find ok (word.length + rest.length) done.length = (done ++ word).length := by
  induction word generalizing done with
  | nil =>
    cases rest with
    | nil => simp [find]
    | cons c rest => simp [find, hText, hRest c rfl]
  | cons c word ih =>
    have hNext := @ih (done ++ [c]) (by simp [hText])
      fun x hx => hWord x (List.mem_cons_of_mem c hx)
    have hSteps : (c :: word).length + rest.length = (word.length + rest.length) + 1 := by
      rw [List.length_cons, Nat.add_right_comm]
    have hHere : s.text[done.length]? = some c := by simp [hText]
    rw [hSteps, find, hHere]
    simp only [hWord c List.mem_cons_self, if_true]
    simpa using hNext

/-- Accepted characters are skipped up to the first that is refused. -/
theorem skipWhile_between (hWord : ∀ c ∈ word, ∀ i, ok i c = true) (hRest : Refuses ok rest) :
    (between done (word ++ rest) beyond).skipWhile ok = between (done ++ word) rest beyond := by
  have hFound := find_of_text (s := between done (word ++ rest) beyond)
    (by rw [between, List.append_assoc]) hWord hRest
  have hSteps : done.length + (word ++ rest).length - done.length = word.length + rest.length := by
    simp
  simp only [skipWhile, between] at hFound ⊢
  rw [hSteps, hFound]
  simp [Nat.add_assoc]

theorem skipBlanks_between (hWord : ∀ c ∈ word, isBlank c = true)
    (hRest : ∀ c ∈ rest.head?, isBlank c = false) :
    (between done (word ++ rest) beyond).skipBlanks = between (done ++ word) rest beyond :=
  skipWhile_between (fun c hc _ => hWord c hc) fun c hc _ => hRest c hc

end Scanner

/-! ### Names and values -/

/-- A name without prefix. -/
def isPlainName (letters : List Char) : Bool :=
  letters.all (fun c => isNamePart c && c != ':') && letters.head?.any isNameStart

/-- A value in which every character stands for itself. -/
def isPlainValue (value : List Char) : Bool :=
  value.all fun c => isAllowed c && c != '"' && c != '<' && c != '&' && (!isBlank c || c == ' ')

section Plain

variable {letters value : List Char} {c : Char}

/-- A plain name has no colon, so it has no prefix. -/
theorem isNamePart_of_mem (hName : isPlainName letters = true) (hc : c ∈ letters) :
    isNamePart c = true ∧ c ≠ ':' := by
  rw [isPlainName, Bool.and_eq_true, List.all_eq_true] at hName
  simpa using hName.1 c hc

/-- A plain name starts as names do, so it is not empty. -/
theorem exists_of_isPlainName (hName : isPlainName letters = true) :
    ∃ first others, letters = first :: others ∧ isNameStart first = true := by
  rw [isPlainName, Bool.and_eq_true] at hName
  cases letters with
  | nil => simp at hName
  | cons first others => exact ⟨first, others, rfl, by simpa using hName.2⟩

/-- In a plain value no character ends the value, starts a tag or a reference, or is white space
other than a blank. -/
theorem plain_of_mem (hValue : isPlainValue value = true) (hc : c ∈ value) :
    isAllowed c = true ∧ c ≠ '"' ∧ c ≠ '<' ∧ c ≠ '&' ∧ (isBlank c = true → c = ' ') := by
  rw [isPlainValue, List.all_eq_true] at hValue
  have hPlain := hValue c hc
  simp only [Bool.and_eq_true, Bool.or_eq_true, Bool.not_eq_true', bne_iff_ne, beq_iff_eq] at hPlain
  obtain ⟨⟨⟨⟨hAllowed, hQuote⟩, hLess⟩, hReference⟩, hBlank⟩ := hPlain
  refine ⟨hAllowed, hQuote, hLess, hReference, fun h => hBlank.resolve_left ?_⟩
  rw [h]
  exact Bool.noConfusion

theorem isPlainValue_tail (hValue : isPlainValue (c :: value) = true) :
    isPlainValue value = true := by
  rw [isPlainValue, List.all_cons, Bool.and_eq_true] at hValue
  exact hValue.2

end Plain

namespace Scan

open Scanner

variable {done rest beyond letters value : List Char} {c : Char}

theorem run_skip (word : List Char) : (skip word.length).run (between done (word ++ rest) beyond) =
    .ok ((), between (done ++ word) rest beyond) := by
  rw [← skip_between]
  rfl

theorem run_skip_one : (skip 1).run (between done (c :: rest) beyond) =
    .ok ((), between (done ++ [c]) rest beyond) :=
  run_skip [c]

theorem run_blanks (hWord : ∀ x ∈ letters, isBlank x = true)
    (hRest : ∀ x ∈ rest.head?, isBlank x = false) :
    blanks.run (between done (letters ++ rest) beyond) =
      .ok ((), between (done ++ letters) rest beyond) := by
  rw [blanks, StateT.run_modify, skipBlanks_between hWord hRest]
  rfl

theorem run_no_blanks (hRest : ∀ x ∈ rest.head?, isBlank x = false) :
    blanks.run (between done rest beyond) = .ok ((), between done rest beyond) := by
  have hNone : blanks.run (between done ([] ++ rest) beyond) =
      .ok ((), between (done ++ []) rest beyond) := run_blanks nofun hRest
  rwa [List.append_nil] at hNone

theorem run_current : current.run (between done (c :: rest) beyond) =
    .ok (c, between done (c :: rest) beyond) := by
  rw [current, run_bind_of_ok rfl, peek?_between]
  rfl

theorem run_byte : (byte c).run (between done (c :: rest) beyond) =
    .ok ((), between (done ++ [c]) rest beyond) := by
  rw [byte, run_bind_of_ok run_current, if_neg (by simp)]
  exact run_skip_one

theorem run_quote : quote.run (between done ('"' :: rest) beyond) =
    .ok ('"', between (done ++ ['"']) rest beyond) := by
  rw [quote, run_bind_of_ok run_current, if_neg (by decide), run_bind_of_ok run_skip_one]
  rfl

theorem run_equals (hRest : ∀ x ∈ rest.head?, isBlank x = false) :
    equals.run (between done ('=' :: rest) beyond) =
      .ok ((), between (done ++ ['=']) rest beyond) := by
  have hHere : ∀ x ∈ ('=' :: rest).head?, isBlank x = false := by
    rintro x ⟨⟩
    decide
  rw [equals, run_bind_of_ok (run_no_blanks hHere), run_bind_of_ok run_byte]
  exact run_no_blanks hRest

/-- A plain name is read as one without a prefix, as far as it goes. -/
theorem run_qualifiedName (hName : isPlainName letters = true)
    (hRest : ∀ x ∈ rest.head?, isNamePart x = false) :
    qualifiedName.run (between done (letters ++ rest) beyond) =
      .ok (("", String.ofList letters), between (done ++ letters) rest beyond) := by
  have hRead : (between done (letters ++ rest) beyond).skipWhile (fun _ c => isNamePart c) =
      between (done ++ letters) rest beyond :=
    skipWhile_between (fun c hc _ => (isNamePart_of_mem hName hc).1) fun c hc _ => hRest c hc
  have hSince : (between (done ++ letters) rest beyond).since
      (between done (letters ++ rest) beyond).pos = String.ofList letters := since_between
  have hColon : letters.span (· != ':') = (letters, []) := by
    have hAll : ∀ x ∈ letters, (x != ':') = true := fun x hx =>
      bne_iff_ne.mpr (isNamePart_of_mem hName hx).2
    rw [List.span_eq_takeWhile_dropWhile, List.takeWhile_eq_self_iff.mpr hAll,
      List.dropWhile_eq_nil_iff.mpr hAll]
  have hPlain : letters.contains ':' = false := by
    rw [List.contains_eq_mem, decide_eq_false_iff_not]
    exact fun h => (isNamePart_of_mem hName h).2 rfl
  obtain ⟨first, others, rfl, hStart⟩ := exists_of_isPlainName hName
  rw [qualifiedName, run_bind_of_ok rfl]
  dsimp only
  rw [hRead, hSince, String.toList_ofList, hColon]
  simp only [hPlain, Bool.false_eq_true, if_false]
  simp only [hStart]
  rfl

/-- A plain value is read up to the quote behind it. -/
theorem run_chars (hValue : isPlainValue value = true) :
    (chars fun _ c => c != '"' && c != '<').run (between done (value ++ '"' :: rest) beyond) =
      .ok (String.ofList value, between (done ++ value) ('"' :: rest) beyond) := by
  have hRead : (between done (value ++ '"' :: rest) beyond).skipWhile
      (fun _ c => isAllowed c && (c != '"' && c != '<')) =
      between (done ++ value) ('"' :: rest) beyond := by
    refine skipWhile_between (fun c hc _ => ?_) ?_
    · obtain ⟨hAllowed, hQuote, hLess, -⟩ := plain_of_mem hValue hc
      simp [hAllowed, hQuote, hLess]
    · rintro c ⟨⟩ -
      rfl
  have hSince : (between (done ++ value) ('"' :: rest) beyond).since
      (between done (value ++ '"' :: rest) beyond).pos = String.ofList value := since_between
  rw [chars, run_bind_of_ok rfl]
  dsimp only
  rw [hRead, hSince, peek?_between]
  rfl

/-- A name and its value as they are written. -/
def pairText (label value : List Char) : List Char := label ++ '=' :: '"' :: (value ++ ['"'])

/-- A name and its value in quotes are read as the name and the place of the value. -/
theorem run_pair (hLabel : isPlainName letters = true) (hValue : isPlainValue value = true) :
    pair.run (between done (pairText letters value ++ rest) beyond) =
      .ok ((("", String.ofList letters), ⟨(done ++ (letters ++ ['=', '"'])).length,
        (done ++ (letters ++ ['=', '"'])).length + value.length⟩),
        between (done ++ pairText letters value) rest beyond) := by
  have hText : pairText letters value ++ rest = letters ++ '=' :: '"' :: (value ++ '"' :: rest) := by
    simp [pairText]
  have hEquals : ∀ x ∈ ('=' :: '"' :: (value ++ '"' :: rest)).head?, isNamePart x = false := by
    rintro x ⟨⟩
    decide
  have hQuote : ∀ x ∈ ('"' :: (value ++ '"' :: rest)).head?, isBlank x = false := by
    rintro x ⟨⟩
    decide
  rw [hText, pair, run_bind_of_ok (run_qualifiedName hLabel hEquals),
    run_bind_of_ok (run_equals hQuote), run_bind_of_ok run_quote, run_bind_of_ok rfl,
    run_bind_of_ok (run_chars hValue), run_bind_of_ok rfl, run_bind_of_ok run_byte, StateT.run_pure]
  have hStart : done ++ letters ++ ['='] ++ ['"'] = done ++ (letters ++ ['=', '"']) := by simp
  have hDone : done ++ letters ++ ['='] ++ ['"'] ++ value ++ ['"'] = done ++ pairText letters value := by
    simp [pairText]
  rw [hDone, hStart]
  show Except.ok (_, _) = _
  rw [show (between _ _ beyond).pos = (done ++ (letters ++ ['=', '"']) ++ value).length from rfl,
    @List.length_append _ _ value]
  rfl

end Scan

namespace Read

open Scanner

variable {st : State} {done rest beyond letters value : List Char}

/-- A step of the scanner moves the scanner and leaves all else as it was. -/
theorem run_scan {α : Type} {step : Scan α} {a : α} {s : Scanner}
    (h : step.run st.scanner = .ok (a, s)) :
    (scan step).run st = .ok (a, { st with scanner := s }) := by
  rw [scan, run_bind_of_ok rfl]
  dsimp only
  rw [h]
  rfl

/-- A character of a plain value stands for itself. -/
theorem valueChar_plain {c : Char} {next : Option Char} (hBlank : isBlank c = true → c = ' ') :
    valueChar c next = [c] := by
  unfold valueChar
  by_cases hc : isBlank c = true
  · rw [hBlank hc]
    rfl
  · have hReturn : c ≠ '\r' := by
      rintro rfl
      exact hc (by decide)
    simp [hc, hReturn]

/-- So a plain value is what is written, in the order of the text. -/
theorem run_valueWith (expand : Entity → List Char → Read (List Char)) (out : List Char)
    (hValue : isPlainValue value = true) :
    (valueWith expand value.length out).run { st with scanner := between done value beyond } =
      .ok (value.reverse ++ out, { st with scanner := between (done ++ value) [] beyond }) := by
  induction value generalizing done out with
  | nil =>
    rw [List.append_nil]
    rfl
  | cons c value ih =>
    obtain ⟨-, -, -, hReference, hBlank⟩ := plain_of_mem hValue List.mem_cons_self
    have hRest := @ih (done ++ [c]) (c :: out) (isPlainValue_tail hValue)
    rw [List.length_cons, valueWith, run_bind_of_ok rfl]
    dsimp only
    rw [peek?_between, List.getElem?_cons_zero]
    split
    · next h => simp at h
    · next h => exact absurd (Option.some.inj h) hReference
    · next d h =>
      obtain rfl := Option.some.inj h
      have hStep : (scan (Scan.skip 1)).run
          { st with scanner := between done (c :: value) beyond } =
          .ok ((), { st with scanner := between (done ++ [c]) value beyond }) :=
        run_scan Scan.run_skip_one
      rw [run_bind_of_ok hStep, valueChar_plain hBlank, List.reverse_cons, List.append_assoc]
      simpa using hRest

/-- The same for a value at its place in the text. The scanner comes back to where it was. -/
theorem run_value (levels : Nat) (out : List Char) {done : List Char} (hValue : isPlainValue value = true)
    (hText : st.scanner.text = (done ++ (value ++ rest)).toArray) :
    (Read.value (levels + 1) ⟨done.length, done.length + value.length⟩ out).run st =
      .ok (value.reverse ++ out, st) := by
  have hPart : (⟨st.scanner.text, done.length, done.length + value.length⟩ : Scanner) =
      between done value rest := by
    rw [hText, between]
  have hRead : (valueWith (fun e out => Read.value levels e.value out) value.length out).run
      { st with scanner := between done value rest } =
      .ok (value.reverse ++ out, { st with scanner := between (done ++ value) [] rest }) :=
    run_valueWith _ out hValue
  rw [Read.value, run_bind_of_ok rfl, run_bind_of_ok rfl]
  dsimp only
  rw [hPart, Nat.add_sub_cancel_left, run_bind_of_ok hRead]
  rfl

end Read

/-! ### Attributes -/

/-- An attribute without prefix: its name and its value. -/
structure PlainAttribute where
  label : List Char
  value : List Char

namespace PlainAttribute

/-- An attribute stands behind a blank. -/
def text (a : PlainAttribute) : List Char := ' ' :: Scan.pairText a.label a.value

/-- The attribute declares the namespace of names without prefix. -/
def isDeclaration (a : PlainAttribute) : Bool := String.ofList a.label == "xmlns"

/-- The attribute is written plainly and declares no namespace that is reserved. -/
def IsPlain (a : PlainAttribute) : Prop :=
  isPlainName a.label = true ∧ isPlainValue a.value = true ∧
    (a.isDeclaration = true →
      String.ofList a.value ≠ xmlUri ∧ String.ofList a.value ≠ xmlnsUri)

instance (a : PlainAttribute) : Decidable a.IsPlain := by
  unfold IsPlain
  infer_instance

/-- The attribute as it is read. -/
def toAttribute (a : PlainAttribute) : Attribute := ⟨⟨none, String.ofList a.label⟩, String.ofList a.value⟩

end PlainAttribute

/-- The state with the scanner behind some characters and in front of all others. -/
def State.between (st : State) (done rest : List Char) : State :=
  { st with scanner := .between done rest [] }

namespace Read

open Scanner

/-- What is known of a tag once an attribute has been read that begins at an index. -/
def Tag.put (tag : Tag) (start : Nat) (a : PlainAttribute) : Tag :=
  if a.isDeclaration then
    { tag with declared := tag.declared ++ [(none, String.ofList a.value)] }
  else
    { tag with attributes :=
        ⟨"", String.ofList a.label, String.ofList a.value, start⟩ :: tag.attributes }

variable {st : State} {done rest : List Char}

/-- What a step does to a scanner it does to the one of a reader. -/
theorem run_scan_between {α : Type} {step : Scan α} {r : α} {done' rest' : List Char}
    (h : step.run (.between done rest []) = .ok (r, .between done' rest' [])) :
    (scan step).run (st.between done rest) = .ok (r, st.between done' rest') :=
  run_scan h

/-- A plain attribute is added to its tag, as a declaration or as an attribute. -/
theorem run_addAttribute {a : PlainAttribute} (h : a.IsPlain) (tag : Tag) :
    (addAttribute tag).run (st.between done (Scan.pairText a.label a.value ++ rest)) =
      .ok (tag.put done.length a, st.between (done ++ Scan.pairText a.label a.value) rest) := by
  obtain ⟨hLabel, hValue, hReserved⟩ := h
  have hText : (st.between (done ++ Scan.pairText a.label a.value) rest).scanner.text =
      (done ++ (a.label ++ ['=', '"']) ++ (a.value ++ '"' :: rest)).toArray := by
    simp [State.between, between, Scan.pairText]
  have hRead : (value 11 ⟨(done ++ (a.label ++ ['=', '"'])).length,
      (done ++ (a.label ++ ['=', '"'])).length + a.value.length⟩ []).run
        (st.between (done ++ Scan.pairText a.label a.value) rest) =
      .ok (a.value.reverse ++ [], st.between (done ++ Scan.pairText a.label a.value) rest) :=
    run_value 10 [] hValue hText
  rw [addAttribute, run_bind_of_ok rfl,
    run_bind_of_ok (run_scan_between (Scan.run_pair hLabel hValue))]
  dsimp only
  rw [run_bind_of_ok hRead, run_bind_of_ok rfl, List.append_nil, List.reverse_reverse,
    if_neg (by decide), Tag.put, PlainAttribute.isDeclaration]
  split
  · next hDeclares =>
    obtain ⟨hXml, hXmlns⟩ := hReserved hDeclares
    rw [declareDefault, if_neg (by simpa using hXml), if_neg (by simpa using hXmlns)]
    rfl
  · rfl

/-- What is known of a tag once attributes have been read, the first of them behind the blank at
an index. -/
def Tag.putAll (tag : Tag) (start : Nat) : List PlainAttribute → Tag
  | [] => tag
  | a :: rest => putAll (tag.put (start + 1) a) (start + a.text.length) rest

/-- The end of a tag that opens an element, or of an element without content. -/
def tagEnd (opens : Bool) : List Char := if opens then ['>'] else ['/', '>']

theorem isBlank_of_isNameStart {c : Char} (h : isNameStart c = true) : isBlank c = false := by
  rw [← Bool.not_eq_true]
  intro hBlank
  simp only [isBlank, Bool.or_eq_true, beq_iff_eq] at hBlank
  obtain ((rfl | rfl) | rfl) | rfl := hBlank <;> exact absurd h (by decide)

/-- The end of a tag tells whether an element has begun or is empty. -/
theorem run_tagEnd (tag : Tag) (opens : Bool) (fuel : Nat) :
    (tagRest (fuel + 1) tag).run (st.between done (tagEnd opens ++ rest)) =
      .ok ((tag, some opens), st.between (done ++ tagEnd opens) rest) := by
  rw [tagRest, run_bind_of_ok rfl]
  cases opens with
  | false =>
    have hText : tagEnd false ++ rest = '/' :: '>' :: rest := rfl
    have hDone : done ++ tagEnd false = done ++ ['/'] ++ ['>'] := by simp [tagEnd]
    have hSlash : ∀ x ∈ ('/' :: '>' :: rest).head?, isBlank x = false := by
      rintro x ⟨⟩
      decide
    rw [hText, hDone, if_neg (by simp [State.between, atEnd_between]),
      run_bind_of_ok (run_scan_between (Scan.run_no_blanks hSlash)),
      run_bind_of_ok (run_scan_between Scan.run_current)]
    refine (run_bind_of_ok (run_scan_between Scan.run_skip_one)).trans ?_
    rw [run_bind_of_ok (run_scan_between Scan.run_byte)]
    rfl
  | true =>
    have hText : tagEnd true ++ rest = '>' :: rest := rfl
    have hClose : ∀ x ∈ ('>' :: rest).head?, isBlank x = false := by
      rintro x ⟨⟩
      decide
    rw [hText, if_neg (by simp [State.between, atEnd_between]),
      run_bind_of_ok (run_scan_between (Scan.run_no_blanks hClose)),
      run_bind_of_ok (run_scan_between Scan.run_current)]
    exact run_bind_of_ok (run_scan_between Scan.run_skip_one)

/-- In front of an attribute a tag reads the blank and the attribute and goes on. -/
theorem run_tagRest_attribute {a : PlainAttribute} (h : a.IsPlain) (tag : Tag) (fuel : Nat) :
    (tagRest (fuel + 1) tag).run (st.between done (a.text ++ rest)) =
      (tagRest fuel (tag.put (done.length + 1) a)).run (st.between (done ++ a.text) rest) := by
  obtain ⟨c, others, hLabel, hStart⟩ := exists_of_isPlainName h.1
  obtain ⟨letters, hLetters⟩ : ∃ letters, Scan.pairText a.label a.value ++ rest = c :: letters := by
    rw [hLabel]
    exact ⟨_, rfl⟩
  have hText : a.text ++ rest = [' '] ++ (Scan.pairText a.label a.value ++ rest) := rfl
  have hBlank : ∀ x ∈ (Scan.pairText a.label a.value ++ rest).head?, isBlank x = false := by
    rw [hLetters]
    rintro x ⟨⟩
    exact isBlank_of_isNameStart hStart
  have hAttribute : (addAttribute tag).run
      (st.between (done ++ [' ']) (Scan.pairText a.label a.value ++ rest)) =
      .ok (tag.put (done ++ [' ']).length a,
        st.between (done ++ [' '] ++ Scan.pairText a.label a.value) rest) :=
    run_addAttribute h tag
  rw [tagRest, run_bind_of_ok rfl, hText, if_neg (by simp [State.between, atEnd_between]),
    run_bind_of_ok (run_scan_between (Scan.run_blanks (List.forall_mem_singleton.mpr (by decide)) hBlank)), hLetters,
    run_bind_of_ok (run_scan_between Scan.run_current)]
  rw [hLetters] at hAttribute
  split
  · exact absurd hStart (by decide)
  · exact absurd hStart (by decide)
  · rw [if_neg (by simp [State.between, peek?_between]; decide), run_bind_of_ok hAttribute]
    simp [PlainAttribute.text]

/-- The rest of a tag is read attribute by attribute, by induction on the attributes. Each takes
one step. -/
theorem run_tagRest {attributes : List PlainAttribute} (hPlain : ∀ a ∈ attributes, a.IsPlain)
    (tag : Tag) (opens : Bool) {fuel : Nat} (hFuel : attributes.length < fuel) :
    (tagRest fuel tag).run
        (st.between done (attributes.flatMap PlainAttribute.text ++ (tagEnd opens ++ rest))) =
      .ok ((tag.putAll done.length attributes, some opens),
        st.between (done ++ attributes.flatMap PlainAttribute.text ++ tagEnd opens) rest) := by
  induction attributes generalizing done tag fuel with
  | nil =>
    obtain ⟨fuel, rfl⟩ := Nat.exists_eq_add_of_lt hFuel
    rw [List.flatMap_nil, List.nil_append, List.append_nil, run_tagEnd]
    rfl
  | cons a attributes ih =>
    obtain ⟨fuel, rfl⟩ := Nat.exists_eq_add_of_lt hFuel
    have hRest := @ih (done ++ a.text) (fun x hx => hPlain x (List.mem_cons_of_mem a hx))
      (tag.put (done.length + 1) a) ((a :: attributes).length + fuel) (by simp; omega)
    rw [List.flatMap_cons, List.append_assoc, run_tagRest_attribute (hPlain a List.mem_cons_self),
      hRest, Tag.putAll, List.length_append, List.append_assoc done]

/-- A written attribute as it is read if it has no prefix. -/
def Written.plain (w : Written) : Attribute := ⟨⟨none, w.label⟩, w.value⟩

/-- Attributes without prefixes keep their names, and as these are different all are kept in their
order. -/
theorem run_resolve (scope : Scope) {written : List Written} {found : List Attribute}
    (hSpace : ∀ w ∈ written, w.space = "")
    (hNames : (found.reverse ++ written.map Written.plain).map Attribute.name |>.Nodup) :
    (resolve scope written found).run st =
      .ok (found.reverse ++ written.map Written.plain, st) := by
  induction written generalizing found with
  | nil =>
    rw [List.map_nil, List.append_nil]
    rfl
  | cons w written ih =>
    have hNew : found.any (·.name == (⟨none, w.label⟩ : Name)) = false := by
      rw [List.any_eq_false]
      intro b hb hSame
      rw [List.map_append, List.nodup_append] at hNames
      refine hNames.2.2 b.name (List.mem_map_of_mem (List.mem_reverse.mpr hb)) _
        (List.mem_map_of_mem (List.mem_map_of_mem List.mem_cons_self)) ?_
      exact beq_iff_eq.mp hSame
    have hRest := @ih (w.plain :: found)
      (fun v hv => hSpace v (List.mem_cons_of_mem w hv)) (by simpa using hNames)
    rw [resolve, hSpace w List.mem_cons_self, if_neg (by decide), if_pos (by decide),
      run_bind_of_ok rfl]
    dsimp only
    rw [if_neg (by simp [hNew])]
    simpa [Written.plain] using hRest

end Read

/-- The namespaces that attributes declare. -/
def declaredBy (attributes : List PlainAttribute) : Scope :=
  (attributes.filter PlainAttribute.isDeclaration).map fun a => (none, String.ofList a.value)

/-- The attributes without the declarations, as they are read. -/
def namedBy (attributes : List PlainAttribute) : List Attribute :=
  (attributes.filter fun a => !a.isDeclaration).map PlainAttribute.toAttribute

namespace Read

theorem declared_putAll (attributes : List PlainAttribute) (tag : Tag) (start : Nat) :
    (tag.putAll start attributes).declared = tag.declared ++ declaredBy attributes := by
  induction attributes generalizing tag start with
  | nil => simp [Tag.putAll, declaredBy]
  | cons a attributes ih =>
    rw [Tag.putAll, ih, Tag.put]
    cases h : a.isDeclaration <;> simp [declaredBy, h]

/-- Those that declare nothing are the attributes of the element, in the order of the text. -/
theorem attributes_putAll (attributes : List PlainAttribute) (tag : Tag) (start : Nat) :
    (tag.putAll start attributes).attributes.reverse.map Written.plain =
      tag.attributes.reverse.map Written.plain ++ namedBy attributes := by
  induction attributes generalizing tag start with
  | nil => simp [Tag.putAll, namedBy]
  | cons a attributes ih =>
    rw [Tag.putAll, ih, Tag.put]
    cases h : a.isDeclaration <;>
      simp [namedBy, h, Written.plain, PlainAttribute.toAttribute]

theorem space_putAll {attributes : List PlainAttribute} {tag : Tag} {start : Nat}
    (hTag : ∀ w ∈ tag.attributes, w.space = "") :
    ∀ w ∈ (tag.putAll start attributes).attributes, w.space = "" := by
  induction attributes generalizing tag start with
  | nil => exact hTag
  | cons a attributes ih =>
    refine ih ?_
    rw [Tag.put]
    split
    · exact hTag
    · exact List.forall_mem_cons.mpr ⟨rfl, hTag⟩

/-- The attributes that are read from a tag are those that it names. -/
theorem run_resolve_putAll {attributes : List PlainAttribute}
    (hNodup : ((namedBy attributes).map Attribute.name).Nodup) (scope : Scope) (start : Nat)
    (st : State) :
    (resolve scope (Tag.putAll ⟨[], []⟩ start attributes).attributes.reverse []).run st =
      .ok (namedBy attributes, st) := by
  have hNamed := attributes_putAll attributes ⟨[], []⟩ start
  simp only [List.reverse_nil, List.map_nil, List.nil_append] at hNamed
  have hSpace : ∀ w ∈ (Tag.putAll ⟨[], []⟩ start attributes).attributes, w.space = "" :=
    space_putAll (List.forall_mem_nil _)
  have hResolve := @run_resolve st scope _ []
    (fun w hw => hSpace w (List.mem_reverse.mp hw))
    (by rwa [hNamed, List.reverse_nil, List.nil_append])
  rwa [hNamed] at hResolve

end Read

/-! ### Tags -/

/-- A tag without prefixes. -/
inductive PlainTag where
  /-- The beginning of an element; the element has no content if the tag does not open it. -/
  | start (name : List Char) (attributes : List PlainAttribute) (opens : Bool)
  /-- The end of an element. -/
  | stop (name : List Char)

namespace PlainTag

/-- The tag as it is written. -/
def text : PlainTag → List Char
  | start name attributes opens =>
    '<' :: (name ++ (attributes.flatMap PlainAttribute.text ++ Read.tagEnd opens))
  | stop name => '<' :: '/' :: (name ++ ['>'])

/-- The tag is written plainly and names no attribute twice. -/
def IsPlain : PlainTag → Prop
  | start name attributes _ =>
    isPlainName name = true ∧ (∀ a ∈ attributes, a.IsPlain) ∧
      ((namedBy attributes).map Attribute.name).Nodup
  | stop name => isPlainName name = true

instance : (t : PlainTag) → Decidable t.IsPlain
  | start name attributes _ =>
    inferInstanceAs (Decidable (isPlainName name = true ∧ (∀ a ∈ attributes, a.IsPlain) ∧
      ((namedBy attributes).map Attribute.name).Nodup))
  | stop name => inferInstanceAs (Decidable (isPlainName name = true))

end PlainTag

namespace Read

open Scanner

variable {st : State} {done rest : List Char}

/-- The element that a tag begins inside of a state. -/
def begun (st : State) (name : List Char) (attributes : List PlainAttribute) : Frame :=
  let scope := declaredBy attributes ++ st.inner.scope
  ⟨st.count, ⟨(scope.find? (·.1 == none)).map Prod.snd, String.ofList name⟩, "", namedBy attributes,
    scope, []⟩

/-- What a tag does to a state, apart from its scanner. -/
def tagStep (st : State) : PlainTag → Option State
  | .start name attributes opens =>
    let st' := { st with tagged := true, count := st.count + 1 }
    some (if opens then { st' with outer := st.inner :: st.outer, inner := begun st name attributes }
      else { st' with inner := st.inner.add (begun st name attributes).toNode })
  | .stop name =>
    match st.outer with
    | [] => none
    | parent :: outer =>
      if st.tagged ∧ st.inner.written = "" ∧ st.inner.name.label = String.ofList name then
        some { st with outer, inner := parent.add st.inner.toNode }
      else none

/-- A name without a prefix is in the name space that was declared last without one. -/
theorem run_namespaceOf (scope : Scope) (start : Nat) :
    (namespaceOf scope "" start).run st = .ok ((scope.find? (·.1 == none)).map Prod.snd, st) := by
  rw [namespaceOf, if_pos (by decide)]
  cases scope.find? (·.1 == none) with
  | none =>
    dsimp only
    rw [if_pos (by decide)]
    rfl
  | some found => rfl

theorem length_le_text (attributes : List PlainAttribute) :
    attributes.length ≤ (attributes.flatMap PlainAttribute.text).length := by
  induction attributes with
  | nil => exact Nat.le_refl 0
  | cons a attributes ih =>
    rw [List.flatMap_cons, List.length_append, List.length_cons, PlainAttribute.text, List.length_cons]
    omega

/-- A tag that begins an element does what its step says. -/
theorem run_startTag {name : List Char} {attributes : List PlainAttribute} (opens : Bool)
    (h : (PlainTag.start name attributes opens).IsPlain) {st' : State}
    (hStep : tagStep st (.start name attributes opens) = some st') :
    startTag.run (st.between done ((PlainTag.start name attributes opens).text ++ rest)) =
      .ok (opens, st'.between (done ++ (PlainTag.start name attributes opens).text) rest) := by
  obtain ⟨hName, hAttributes, hNodup⟩ := h
  have hText : (PlainTag.start name attributes opens).text ++ rest =
      '<' :: (name ++ (attributes.flatMap PlainAttribute.text ++ (tagEnd opens ++ rest))) := by
    simp [PlainTag.text]
  have hBehind : ∀ x ∈ (attributes.flatMap PlainAttribute.text ++ (tagEnd opens ++ rest)).head?,
      isNamePart x = false := by
    cases attributes with
    | nil => cases opens <;> · rintro x ⟨⟩; decide
    | cons a attributes =>
      rintro x ⟨⟩
      decide
  have hDone : done ++ ['<'] ++ name ++ attributes.flatMap PlainAttribute.text ++ tagEnd opens =
      done ++ (PlainTag.start name attributes opens).text := by
    simp [PlainTag.text]
  let marked : State := { st with tagged := true }
  have hFuel : attributes.length < (marked.between (done ++ ['<'] ++ name)
      (attributes.flatMap PlainAttribute.text ++ (tagEnd opens ++ rest))).scanner.stop -
        (done ++ ['<'] ++ name).length + 1 := by
    have hLength := length_le_text attributes
    simp only [State.between, between, Nat.add_sub_cancel_left, List.length_append] at hLength ⊢
    omega
  have hTag := @run_tagRest marked (done ++ ['<'] ++ name) rest attributes hAttributes ⟨[], []⟩ opens
    _ hFuel
  rw [hDone] at hTag
  rw [hText, startTag, run_bind_of_ok rfl, run_bind_of_ok (run_scan_between Scan.run_skip_one),
    run_bind_of_ok (run_scan_between (Scan.run_qualifiedName hName hBehind))]
  dsimp only
  rw [if_neg (by decide), run_bind_of_ok rfl, run_bind_of_ok rfl]
  refine (run_bind_of_ok hTag).trans ?_
  simp only [declared_putAll, List.nil_append]
  rw [run_bind_of_ok rfl, run_bind_of_ok (run_resolve_putAll hNodup ..),
    run_bind_of_ok (run_namespaceOf ..), run_bind_of_ok rfl, run_bind_of_ok rfl]
  obtain rfl := Option.some.inj hStep
  cases opens <;> rfl

theorem run_endTag {name : List Char} (hName : isPlainName name = true) {st' : State}
    (hStep : tagStep st (.stop name) = some st') :
    endTag.run (st.between done ((PlainTag.stop name).text ++ rest)) =
      .ok ((), st'.between (done ++ (PlainTag.stop name).text) rest) := by
  have hText : (PlainTag.stop name).text ++ rest = '<' :: '/' :: (name ++ '>' :: rest) := by
    simp [PlainTag.text]
  have hDone : done ++ ['<', '/'] ++ name ++ ['>'] = done ++ (PlainTag.stop name).text := by
    simp [PlainTag.text]
  have hName' : ∀ x ∈ ('>' :: rest).head?, isNamePart x = false := by
    rintro x ⟨⟩
    decide
  have hBlank : ∀ x ∈ ('>' :: rest).head?, isBlank x = false := by
    rintro x ⟨⟩
    decide
  have hSkip : (scan (Scan.skip 2)).run (st.between done ('<' :: '/' :: (name ++ '>' :: rest))) =
      .ok ((), st.between (done ++ ['<', '/']) (name ++ '>' :: rest)) :=
    run_scan_between (Scan.run_skip ['<', '/'])
  rw [hText, endTag, run_bind_of_ok rfl, run_bind_of_ok hSkip,
    run_bind_of_ok (run_scan_between (Scan.run_qualifiedName hName hName')),
    run_bind_of_ok (run_scan_between (Scan.run_no_blanks hBlank)),
    run_bind_of_ok (run_scan_between Scan.run_byte), hDone, run_bind_of_ok rfl]
  simp only [tagStep] at hStep
  split at hStep
  · simp at hStep
  · next parent outer hOuter =>
    split at hStep
    · next hSame =>
      obtain ⟨hTagged, hWritten, hLabel⟩ := hSame
      obtain rfl := Option.some.inj hStep
      simp only [State.between, hTagged, hOuter, hWritten, hLabel, bne_self_eq_false, Bool.or_self,
        Bool.not_true, Bool.false_eq_true, if_false]
      rfl
    · simp at hStep

/-- What tags do to a state inside of the outermost element, until that ends. -/
def tagSteps : State → List PlainTag → Option State
  | st, [] => if st.outer.isEmpty then some st else none
  | st, t :: tags => if st.outer.isEmpty then none else (tagStep st t).bind (tagSteps · tags)

theorem length_outer_start {name : List Char} {attributes : List PlainAttribute} {opens : Bool}
    {st' : State} (hStep : tagStep st (.start name attributes opens) = some st') :
    st'.outer.length = if opens then st.outer.length + 1 else st.outer.length := by
  obtain rfl := Option.some.inj hStep
  cases opens <;> rfl

theorem length_outer_stop {name : List Char} {st' : State}
    (hStep : tagStep st (.stop name) = some st') : st.outer.length = st'.outer.length + 1 := by
  simp only [tagStep] at hStep
  split at hStep
  · exact nomatch hStep
  · next parent outer hOuter =>
    split at hStep
    · obtain rfl := Option.some.inj hStep
      rw [hOuter, List.length_cons]
    · exact nomatch hStep

/-- Content begins with what its first tag does. -/
theorem run_contentWith_tag (expand : Read Unit) (fuel : Nat) {t : PlainTag} (h : t.IsPlain)
    {st' : State} (hStep : tagStep st t = some st') (hOuter : st.outer ≠ []) :
    (contentWith expand (fuel + 1) st.outer.length).run (st.between done (t.text ++ rest)) =
      (contentWith expand fuel st'.outer.length).run (st'.between (done ++ t.text) rest) := by
  obtain ⟨parent, outer, hParent⟩ := List.exists_cons_of_ne_nil hOuter
  rw [hParent, List.length_cons, contentWith, run_bind_of_ok rfl]
  cases t with
  | start name attributes opens =>
    have hTag := @run_startTag st done rest name attributes opens h st' hStep
    obtain ⟨c, others, rfl, hStart⟩ := exists_of_isPlainName h.1
    have hSecond : ((PlainTag.start (c :: others) attributes opens).text ++ rest)[1]? = some c := rfl
    have hLength := length_outer_start hStep
    rw [hParent, List.length_cons] at hLength
    have hFirst : ((PlainTag.start (c :: others) attributes opens).text ++ rest)[0]? = some '<' := rfl
    have hOther (d : Char) (hd : isNameStart d = false) : some c ≠ some d := by
      rintro ⟨⟩
      rw [hStart] at hd
      exact Bool.noConfusion hd
    -- The character behind the bracket tells the tag from marks and from the end of an element.
    simp only [State.between, Scanner.peek?_between, hFirst, hSecond]
    split
    · next hNone => exact nomatch hNone
    · next _ hMark => exact absurd hMark (hOther '!' (by decide))
    · next _ hMark => exact absurd hMark (hOther '?' (by decide))
    · next _ hMark => exact absurd hMark (hOther '/' (by decide))
    · next _ hNone => exact nomatch hNone
    · refine (run_bind_of_ok hTag).trans ?_
      rw [hLength]
      cases opens <;> rfl
    · next hLess _ _ _ _ hMark => exact (hMark c rfl (Option.some.inj hLess).symm).elim
  | stop name =>
    have hTag := @run_endTag st done rest name h st' hStep
    have hLength : outer.length = st'.outer.length :=
      Nat.succ.inj ((congrArg List.length hParent).symm.trans (length_outer_stop hStep))
    simp only [State.between, Scanner.peek?_between]
    refine (run_bind_of_ok hTag).trans ?_
    rw [← hLength]
    rfl

/-- Tags are read one by one to the end of the outermost element, by induction on the tags. -/
theorem run_contentWith (expand : Read Unit) {tags : List PlainTag}
    (hPlain : ∀ t ∈ tags, t.IsPlain) {st' : State} (hSteps : tagSteps st tags = some st')
    (fuel : Nat) :
    (contentWith expand (tags.length + fuel + 1) st.outer.length).run
        (st.between done (tags.flatMap PlainTag.text ++ rest)) =
      .ok ((), st'.between (done ++ tags.flatMap PlainTag.text) rest) := by
  induction tags generalizing done st with
  | nil =>
    rw [tagSteps] at hSteps
    split at hSteps
    · next hEmpty =>
      obtain rfl := Option.some.inj hSteps
      rw [List.isEmpty_iff.mp hEmpty, List.flatMap_nil, List.append_nil]
      rfl
    · simp at hSteps
  | cons t tags ih =>
    rw [tagSteps] at hSteps
    split at hSteps
    · simp at hSteps
    · next hOuter =>
      obtain ⟨st₁, hStep, hSteps⟩ := Option.bind_eq_some_iff.mp hSteps
      have hRest := @ih st₁ (done ++ t.text) (fun x hx => hPlain x (List.mem_cons_of_mem t hx))
        hSteps
      rw [List.flatMap_cons, List.append_assoc, List.length_cons, Nat.add_right_comm _ 1,
        run_contentWith_tag expand _ (hPlain t List.mem_cons_self) hStep (by simpa using hOuter),
        hRest, List.append_assoc]

theorem length_le_tags (tags : List PlainTag) :
    tags.length ≤ (tags.flatMap PlainTag.text).length := by
  induction tags with
  | nil => exact Nat.le_refl 0
  | cons t tags ih =>
    have hText : 0 < t.text.length := by cases t <;> simp [PlainTag.text]
    rw [List.flatMap_cons, List.length_append, List.length_cons]
    omega

/-- The content of an element is read with the steps that the reader has: there are as many as
characters. -/
theorem run_content {tags : List PlainTag} (hPlain : ∀ t ∈ tags, t.IsPlain) {st' : State}
    (hSteps : tagSteps st tags = some st') (hOuter : st.outer.length = 1) :
    (content 11).run (st.between done (tags.flatMap PlainTag.text)) =
      .ok ((), st'.between (done ++ tags.flatMap PlainTag.text) []) := by
  have hFuel : (st.between done (tags.flatMap PlainTag.text)).scanner.stop -
      (st.between done (tags.flatMap PlainTag.text)).scanner.pos + 1 =
        tags.length + ((tags.flatMap PlainTag.text).length - tags.length) + 1 := by
    have hLength := length_le_tags tags
    simp only [State.between, between, Nat.add_sub_cancel_left]
    omega
  have hContent := @run_contentWith st done [] (content 10) tags hPlain st' hSteps
    ((tags.flatMap PlainTag.text).length - tags.length)
  rw [List.append_nil, hOuter] at hContent
  rw [← hFuel] at hContent
  rw [content, run_bind_of_ok rfl]
  exact hContent

/-! ### Documents -/

theorem startsWith_between (beyond : List Char) (word : String) :
    (Scanner.between done rest beyond).startsWith word = word.toList.isPrefixOf rest := by
  have hGo (letters : List Char) (k : Nat) :
      Scanner.startsWith.go (.between done rest beyond) letters k =
        letters.isPrefixOf (rest.drop k) := by
    induction letters generalizing k with
    | nil => simp [Scanner.startsWith.go]
    | cons c letters ih =>
      rw [Scanner.startsWith.go, peek?_between, ih, ← List.head?_drop]
      cases hRest : rest.drop k with
      | nil => simp
      | cons d others =>
        have hOthers : rest.drop (k + 1) = others := by
          rw [← List.drop_drop, hRest, List.drop_one, List.tail_cons]
        rw [hOthers, List.head?_cons, List.isPrefixOf_cons_cons, Option.some_beq_some, BEq.comm]
  rw [Scanner.startsWith, hGo, List.drop_zero]

theorem run_startsWith (word : String) :
    (scan (Scan.startsWith word)).run (st.between done rest) =
      .ok (word.toList.isPrefixOf rest, st.between done rest) := by
  rw [← @startsWith_between done rest [] word]
  rfl

/-- At the end of the text nothing is skipped. -/
theorem run_misc_end (steps : Nat) :
    (misc (steps + 1)).run (st.between done []) = .ok ((), st.between done []) := by
  rw [misc, run_bind_of_ok rfl, if_pos (by simp [State.between, atEnd_between])]
  rfl

/-- What stands in front of an element, or of anything else that is no mark: neither a blank nor a
mark that begins with the same character. -/
structure Unmarked (rest : List Char) : Prop where
  notEmpty : rest.isEmpty = false
  notBlank : ∀ x ∈ rest.head?, isBlank x = false
  noMark (d : Char) (letters : List Char) :
    isNameStart d = false → ('<' :: d :: letters).isPrefixOf rest = false
  noByteOrder : ['\uFEFF'].isPrefixOf rest = false

/-- A tag that begins an element is no declaration, comment or instruction. -/
theorem unmarked_element {c : Char} (hStart : isNameStart c = true) : Unmarked ('<' :: c :: rest) where
  notEmpty := rfl
  notBlank := by
    rintro x ⟨⟩
    decide
  noMark d letters hMark := by
    have hOther : (d == c) = false := by
      rw [beq_eq_false_iff_ne]
      rintro rfl
      rw [hStart] at hMark
      exact Bool.noConfusion hMark
    rw [List.isPrefixOf_cons_cons, List.isPrefixOf_cons_cons, hOther, Bool.false_and, Bool.and_false]
  noByteOrder := rfl

theorem unmarked_other {c : Char} (hBlank : isBlank c = false) (hTag : c ≠ '<')
    (hMark : c ≠ '\uFEFF') : Unmarked (c :: rest) where
  notEmpty := rfl
  notBlank := by
    rintro x ⟨⟩
    exact hBlank
  noMark d letters _ := by
    rw [List.isPrefixOf_cons_cons, beq_eq_false_iff_ne.mpr hTag.symm, Bool.false_and]
  noByteOrder := by
    rw [List.isPrefixOf_cons_cons, beq_eq_false_iff_ne.mpr hMark.symm, Bool.false_and]

/-- None of the marks that begin with an angle bracket fits. -/
theorem Unmarked.run_startsWith (h : Unmarked rest) {word : String} {d : Char} {letters : List Char}
    (hWord : word.toList = '<' :: d :: letters) (hMark : isNameStart d = false) :
    (scan (Scan.startsWith word)).run (st.between done rest) = .ok (false, st.between done rest) := by
  rw [Read.run_startsWith, hWord, h.noMark d letters hMark]

theorem Unmarked.run_misc (h : Unmarked rest) (steps : Nat) :
    (misc (steps + 1)).run (st.between done rest) = .ok ((), st.between done rest) := by
  rw [misc, run_bind_of_ok rfl, if_neg (by simp [State.between, atEnd_between, h.notEmpty]),
    run_bind_of_ok (run_scan_between (Scan.run_no_blanks h.notBlank)),
    run_bind_of_ok (h.run_startsWith String.toList_ofList (by decide)), if_neg (by decide),
    run_bind_of_ok (h.run_startsWith String.toList_ofList (by decide)), if_neg (by decide)]
  rfl

/-- Nothing but the end of the text may follow the outermost element. -/
theorem run_document_end (steps : Nat) :
    (do
      misc (steps + 1)
      let s := (← get).scanner
      if !s.atEnd then throw (.unknownToken s.place) : Read Unit).run (st.between done []) =
        .ok ((), st.between done []) := by
  rw [run_bind_of_ok (run_misc_end _), run_bind_of_ok rfl]
  dsimp only
  rw [if_neg (by simp [State.between, atEnd_between])]
  rfl

/-- A document without marks in front of its element begins with that. -/
theorem Unmarked.run_document (h : Unmarked rest) :
    document.run (st.between done rest) = (do
      if "<".toList.isPrefixOf rest then
        if ← startTag then content 11
      misc (done.length + rest.length + 1)
      let s := (← get).scanner
      if !s.atEnd then throw (.unknownToken s.place) : Read Unit).run (st.between done rest) := by
  have hByteOrder : "\uFEFF".toList.isPrefixOf rest = false := by
    rw [show "\uFEFF".toList = ['\uFEFF'] from String.toList_ofList]
    exact h.noByteOrder
  rw [document, run_bind_of_ok (Read.run_startsWith ..), hByteOrder, if_neg (by decide),
    run_bind_of_ok (h.run_startsWith String.toList_ofList (by decide)), if_neg (by decide),
    run_bind_of_ok rfl]
  dsimp only
  rw [run_bind_of_ok (h.run_misc _),
    run_bind_of_ok (run_scan_between (Scan.run_no_blanks h.notBlank)),
    run_bind_of_ok (h.run_startsWith String.toList_ofList (by decide)), if_neg (by decide),
    run_bind_of_ok (run_scan_between (Scan.run_no_blanks h.notBlank)),
    run_bind_of_ok (Read.run_startsWith ..)]
  rfl

/-- A document is one element, made by its first tag and those behind it. -/
theorem run_document {name : List Char} {attributes : List PlainAttribute} {opens : Bool}
    {tags : List PlainTag} (hPlain : ∀ t ∈ .start name attributes opens :: tags, t.IsPlain)
    (hOuter : st.outer = []) {st₁ st' : State}
    (hFirst : tagStep st (.start name attributes opens) = some st₁)
    (hSteps : tagSteps st₁ tags = some st') :
    document.run (st.between [] ((.start name attributes opens :: tags).flatMap PlainTag.text)) =
      .ok ((), st'.between ((.start name attributes opens :: tags).flatMap PlainTag.text) []) := by
  have hStartPlain := hPlain _ List.mem_cons_self
  obtain ⟨c, others, rfl, hStart⟩ := exists_of_isPlainName hStartPlain.1
  obtain ⟨letters, hLetters⟩ : ∃ letters,
      (PlainTag.start (c :: others) attributes opens :: tags).flatMap PlainTag.text =
        '<' :: c :: letters :=
    ⟨_, rfl⟩
  have hLess : "<".toList.isPrefixOf ('<' :: c :: letters) = true := by
    rw [show "<".toList = ['<'] from String.toList_ofList]
    rfl
  have hTag := @run_startTag st [] (tags.flatMap PlainTag.text) _ _ opens hStartPlain st₁ hFirst
  rw [← List.flatMap_cons, hLetters, List.nil_append] at hTag
  rw [hLetters, (unmarked_element hStart).run_document, if_pos hLess, run_bind_of_ok hTag]
  obtain rfl := Option.some.inj hFirst
  cases opens with
  | true =>
    have hContent := @run_content _ (PlainTag.start (c :: others) attributes true).text _
      (fun t ht => hPlain t (List.mem_cons_of_mem _ ht)) st' hSteps (by simp [hOuter])
    rw [← List.flatMap_cons, hLetters] at hContent
    rw [if_pos rfl, run_bind_of_ok hContent]
    exact run_document_end _
  | false =>
    -- The outermost element has ended with its own tag, so no tag may follow.
    cases tags with
    | nil =>
      rw [tagSteps, if_pos (by simp [hOuter])] at hSteps
      obtain rfl := Option.some.inj hSteps
      have hText : (PlainTag.start (c :: others) attributes false).text = '<' :: c :: letters := by
        simpa using hLetters
      rw [if_neg (by decide), List.flatMap_nil, hText]
      exact run_document_end _
    | cons t tags => simp [tagSteps, hOuter] at hSteps

/-- The state in which nothing of a document has been read. -/
def fresh : State :=
  ⟨⟨#[], 0, 0⟩, [], [], ⟨0, ⟨none, ""⟩, "", [], [(some "xml", xmlUri)], []⟩, 1, 0, 0, false⟩

theorem between_fresh (letters : List Char) : fresh.between [] letters =
    ⟨⟨letters.toArray, 0, letters.toArray.size⟩, [], [],
      ⟨0, ⟨none, ""⟩, "", [], [(some "xml", xmlUri)], []⟩, 1, 0, 0, false⟩ := by
  simp [State.between, Scanner.between, fresh]

end Read

/-- The nodes of a document of tags, if every tag that opens an element meets its end. -/
def nodesOf? : List PlainTag → Option (List Node)
  | .start name attributes opens :: tags =>
    ((Read.tagStep Read.fresh (.start name attributes opens)).bind (Read.tagSteps · tags)).map
      fun st => st.inner.content.reverse
  | _ => none

/-- When all tags are read no element is open. -/
theorem outer_of_tagSteps {st st' : State} {tags : List PlainTag}
    (h : Read.tagSteps st tags = some st') : st'.outer = [] := by
  induction tags generalizing st with
  | nil =>
    rw [Read.tagSteps] at h
    split at h
    · next hEmpty =>
      obtain rfl := Option.some.inj h
      exact List.isEmpty_iff.mp hEmpty
    · simp at h
  | cons t tags ih =>
    rw [Read.tagSteps] at h
    split at h
    · simp at h
    · obtain ⟨_, -, hRest⟩ := Option.bind_eq_some_iff.mp h
      exact ih hRest

/-- A document that is written in plain tags is read as it is written. -/
theorem parse_tags {text : String} {tags : List PlainTag} {nodes : List Node}
    (hText : text.toList = tags.flatMap PlainTag.text) (hPlain : ∀ t ∈ tags, t.IsPlain)
    (hNodes : nodesOf? tags = some nodes) (hElement : nodes.any (·.element?.isSome) = true) :
    parse text = .ok nodes := by
  unfold nodesOf? at hNodes
  split at hNodes
  · next name attributes opens tags =>
    obtain ⟨st', hSteps, rfl⟩ := Option.map_eq_some_iff.mp hNodes
    obtain ⟨st₁, hFirst, hRest⟩ := Option.bind_eq_some_iff.mp hSteps
    have hRead := Read.run_document hPlain rfl hFirst hRest
    rw [← hText, Read.between_fresh] at hRead
    have hOuter : st'.outer = [] := outer_of_tagSteps hRest
    rw [List.any_reverse] at hElement
    rw [parse]
    simp only [hRead, ok_bind, State.between, hOuter, List.getLast?_nil, List.isEmpty_nil, hElement]
    rfl
  · simp at hNodes

/-- A text that begins neither with a blank nor with a tag is no document. -/
theorem parse_refused {text : String} {c : Char} {rest : List Char} (hText : text.toList = c :: rest)
    (hBlank : isBlank c = false) (hTag : c ≠ '<') (hMark : c ≠ '\uFEFF') :
    ∃ fault, parse text = .error fault := by
  have hUnmarked : Read.Unmarked (c :: rest) := Read.unmarked_other hBlank hTag hMark
  have hLess : "<".toList.isPrefixOf (c :: rest) = false := by
    rw [show "<".toList = ['<'] from String.toList_ofList, List.isPrefixOf_cons_cons,
      beq_eq_false_iff_ne.mpr hTag.symm, Bool.false_and]
  have hRead := @Read.Unmarked.run_document Read.fresh [] _ hUnmarked
  rw [if_neg (by rw [hLess]; decide), run_bind_of_ok (hUnmarked.run_misc _), run_bind_of_ok rfl] at hRead
  dsimp only at hRead
  rw [if_pos (by simp [State.between, Scanner.atEnd_between]), ← hText, Read.between_fresh] at hRead
  rw [parse]
  simp only [hRead]
  exact ⟨_, rfl⟩

end Iconsmith.Xml
