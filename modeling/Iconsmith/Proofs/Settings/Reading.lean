import Iconsmith.Proofs.Settings.Meaning

/-! Settings are read from a text just if it is the text of a value that stands
for them. -/
namespace Iconsmith.Settings

open Json

/-! ### Values of members -/

/-- A side is read as what the value means. -/
theorem reads_side : Reads readSide side? :=
  (reads_unsigned (by decide) "u32").map Nat.toUInt32

theorem reads_limit : Reads readLimit limit? :=
  (reads_unsigned (by decide) "u64").map Nat.toUInt64

/-- Only names that are known are read. -/
theorem mem_of_name? {known : List String} {name : String} {v : Json.Value}
    (h : v.name? known = some name) : name ∈ known := by
  obtain ⟨us, -, hNamed⟩ := name?_eq_some.mp h
  simpa using (Option.filter_eq_some_iff.mp hNamed).2

/-- Something that is read by its name, where every known name is the name of
something. -/
theorem reads_named {α : Type} (known : List String) (ofName? : String → Option α) (other : α)
    (hKnown : ∀ name ∈ known, (ofName? name).isSome) :
    Reads (fun s => (do
      let (name, r) ← readName known s
      return ((ofName? name).getD other, r) : Except Fault (α × List Char)))
      fun v => (v.name? known).bind ofName? := by
  intro s x r
  simp only [bind_eq_ok, Prod.exists, reads_name known s _ _, Option.bind_eq_some_iff]
  constructor
  · rintro ⟨name, t, ⟨v, s', hBlanks, hValue, hName⟩, hx⟩
    obtain ⟨y, hy⟩ := Option.isSome_iff_exists.mp (hKnown name (mem_of_name? hName))
    simp only [hy, Option.getD_some, pure, Except.pure, Except.ok.injEq, Prod.mk.injEq] at hx
    obtain ⟨rfl, rfl⟩ := hx
    exact ⟨v, s', hBlanks, hValue, name, hName, hy⟩
  · rintro ⟨v, s', hBlanks, hValue, name, hName, hx⟩
    exact ⟨name, r, ⟨v, s', hBlanks, hValue, hName⟩, by simp [hx, pure, Except.pure]⟩

theorem reads_filter : Reads readFilter filter? :=
  reads_named ([Filter.nearest, .triangle, .catmullRom, .lanczos3].map Filter.name)
    Filter.ofName? .lanczos3 (by decide)

theorem reads_drawing : Reads readDrawing drawing? :=
  reads_named ([Drawing.embedded, .file].map Drawing.name) Drawing.ofName? .embedded (by decide)

/-! ### Sizes -/

/-- Members complete a size. -/
def GivenSize.Completes (sides : GivenSize) (ms : List (String × Json.Value))
    (size : Size) : Prop :=
  Slot "width" side? (sides.width = none) sides.width ms size.width ∧
    Slot "height" side? (sides.height = none) sides.height ms size.height

section

variable {sides : GivenSize} {size : Size} {v : Json.Value} {ms : List (String × Json.Value)}

theorem completes_nil :
    sides.Completes [] size ↔ sides.width = some size.width ∧ sides.height = some size.height := by
  simp only [GivenSize.Completes, slot_nil]

/-- To begin with both sides are open, and each must be given once. -/
theorem completes_iff :
    GivenSize.Completes ⟨none, none⟩ ms size ↔
      (once? "width" ms).bind side? = some size.width ∧
        (once? "height" ms).bind side? = some size.height := by
  simp [GivenSize.Completes, Slot, Option.bind_eq_some_iff, once?_eq_some]

/-- A width is taken if there is none yet. -/
theorem completes_cons_width :
    sides.Completes (("width", v) :: ms) size ↔ sides.width = none ∧
      ∃ w, side? v = some w ∧ GivenSize.Completes ⟨some w, sides.height⟩ ms size := by
  simp only [GivenSize.Completes, slot_cons_self,
    slot_cons_of_ne (by decide : "width" ≠ "height"), reduceCtorEq]
  constructor
  · rintro ⟨⟨hNone, w, hw, hWidth⟩, hHeight⟩
    exact ⟨hNone, w, hw, hWidth, hHeight⟩
  · rintro ⟨hNone, w, hw, hWidth, hHeight⟩
    exact ⟨⟨hNone, w, hw, hWidth⟩, hHeight⟩

theorem completes_cons_height :
    sides.Completes (("height", v) :: ms) size ↔ sides.height = none ∧
      ∃ h, side? v = some h ∧ GivenSize.Completes ⟨sides.width, some h⟩ ms size := by
  simp only [GivenSize.Completes, slot_cons_self,
    slot_cons_of_ne (by decide : "height" ≠ "width"), reduceCtorEq]
  constructor
  · rintro ⟨hWidth, hNone, h, hh, hHeight⟩
    exact ⟨hNone, h, hh, hWidth, hHeight⟩
  · rintro ⟨hNone, h, hh, hWidth, hHeight⟩
    exact ⟨hWidth, hNone, h, hh, hHeight⟩

/-- Other members of a size are passed over. -/
theorem completes_cons_other {name : String} (hWidth : name ≠ "width") (hHeight : name ≠ "height") :
    sides.Completes ((name, v) :: ms) size ↔ sides.Completes ms size := by
  simp only [GivenSize.Completes, slot_cons_of_ne hWidth, slot_cons_of_ne hHeight]

end

/-- The loop over the members of a size, which takes a step for each. -/
theorem readSizeMembers_eq_ok {steps : Nat} {sides : GivenSize} {first : Bool} {s r : List Char}
    {size : Size} (hSteps : s.length < steps) :
    readSizeMembers steps sides first s = .ok (size, r) ↔
      ∃ ms, Entries first ms s r ∧ sides.Completes ms size := by
  -- On the steps; a member that is read or skipped leaves less of the text than steps.
  induction steps generalizing sides first s with
  | zero => exact absurd hSteps (Nat.not_lt_zero _)
  | succ steps ih =>
      have hMore (sides : GivenSize) (w : List Char) (hLess : w.length < s.length) :
          readSizeMembers steps sides false w = .ok (size, r) ↔
            ∃ ms, Entries false ms w r ∧ sides.Completes ms size :=
        ih (Nat.lt_of_lt_of_le hLess (Nat.le_of_lt_succ hSteps))
      cases hKey : readKey? first s with
      | error f => simp [readSizeMembers, hKey, not_entries hKey, bind, Except.bind]
      | ok result =>
          obtain ⟨key, t⟩ := result
          simp only [readSizeMembers, hKey, bind_eq_ok, Except.ok.injEq, exists_eq_left']
          cases key with
          | none =>
              rw [exists_entries_of_end hKey, completes_nil]
              obtain ⟨width, height⟩ := sides
              obtain ⟨width', height'⟩ := size
              cases width <;> cases height <;> simp [map_eq_ok]
          | some key =>
              simp only [Option.map_some]
              split
              · next hNone => exact nomatch hNone
              · next hName =>
                refine readMember_eq_ok reads_side
                  (fun w u => readSizeMembers steps ⟨some w, sides.height⟩ false u) hKey
                  (fun v ns => ?_) fun w => hMore ⟨some w, sides.height⟩
                rw [Option.some.inj hName, completes_cons_width]
                simp
              · next hName =>
                refine readMember_eq_ok reads_side
                  (fun h u => readSizeMembers steps ⟨sides.width, some h⟩ false u) hKey
                  (fun v ns => ?_) fun h => hMore ⟨sides.width, some h⟩
                rw [Option.some.inj hName, completes_cons_height]
                simp
              · next name hWidth hHeight hName =>
                obtain rfl := Option.some.inj hName
                exact skipMember_eq_ok (fun w => readSizeMembers steps sides false w) hKey
                  (fun v ns => completes_cons_other hWidth hHeight) (hMore sides)

/-- The first element of a size that is written as a list. -/
theorem size?_list_cons {size : Size} (v : Json.Value) (vs : List Json.Value) :
    size? (.list (v :: vs)) = some size ↔
      ∃ x, side? v = some x ∧ x = size.width ∧ ∃ h, side? h = some size.height ∧ vs = [h] := by
  rw [size?_list]
  constructor
  · rintro ⟨w, hw, h, hh, hEq⟩
    obtain ⟨rfl, rfl⟩ := List.cons.inj hEq
    exact ⟨_, hw, rfl, h, hh, rfl⟩
  · rintro ⟨_, hw, rfl, h, hh, rfl⟩
    exact ⟨v, hw, h, hh, rfl⟩

/-- The second element, behind a width that has been read. -/
theorem exists_height_cons {size : Size} (x : UInt32) (v : Json.Value) (vs : List Json.Value) :
    (x = size.width ∧ ∃ h, side? h = some size.height ∧ v :: vs = [h]) ↔
      ∃ y, side? v = some y ∧ (x = size.width ∧ y = size.height) ∧ vs = [] := by
  constructor
  · rintro ⟨rfl, h, hh, hEq⟩
    obtain ⟨rfl, rfl⟩ := List.cons.inj hEq
    exact ⟨_, hh, ⟨rfl, rfl⟩, rfl⟩
  · rintro ⟨_, hh, ⟨rfl, rfl⟩, rfl⟩
    exact ⟨rfl, v, hh, rfl⟩

/-- A size can also be given as a list of two sides. -/
theorem readSizeElements_eq_ok {s r : List Char} {size : Size} :
    readSizeElements s = .ok (size, r) ↔
      ∃ vs, Elements true vs s r ∧ size? (.list vs) = some size := by
  unfold readSizeElements
  simp only [bind_eq_ok, Prod.exists]
  cases hMore : readElement? true s with
  | error f => simp [not_elements hMore]
  | ok result =>
      obtain ⟨more, t⟩ := result
      cases more with
      | false =>
          rw [exists_elements_of_last hMore]
          simp [size?]
      | true =>
          rw [exists_elements_of_reads reads_side hMore size?_list_cons]
          simp only [Except.ok.injEq, Prod.mk.injEq, and_assoc, exists_and_left, exists_eq_left',
            bind_eq_ok, Prod.exists]
          refine exists_congr fun x => exists_congr fun u => and_congr_right fun _ => ?_
          cases hNext : readElement? false u with
          | error f => simp [not_elements hNext]
          | ok result =>
              obtain ⟨more, t'⟩ := result
              cases more with
              | false =>
                  rw [exists_elements_of_last hNext]
                  simp
              | true =>
                  rw [exists_elements_of_reads reads_side hNext (exists_height_cons x)]
                  simp only [Except.ok.injEq, Prod.mk.injEq, and_assoc, exists_and_left,
                    exists_eq_left', bind_eq_ok, Prod.exists]
                  refine exists_congr fun y => exists_congr fun w => and_congr_right fun _ => ?_
                  obtain ⟨width, height⟩ := size
                  simp [elements_nil_iff, pure, Except.pure]

/-- In either form a size is read as what the value means. -/
theorem reads_size : Reads readSize size? := by
  intro s size r
  rw [exists_written_iff]
  unfold readSize
  generalize skipBlanks s = t
  split
  · simp only [readSizeElements_eq_ok, written_list_iff]
    constructor
    · rintro ⟨vs, hElements, hSize⟩
      exact ⟨_, ⟨vs, rfl, hElements⟩, hSize⟩
    · rintro ⟨_, ⟨vs, rfl, hElements⟩, hSize⟩
      exact ⟨vs, hElements, hSize⟩
  · simp only [readSizeMembers_eq_ok (Nat.lt_succ_self _), written_object_iff]
    constructor
    · rintro ⟨ms, ⟨raw, hMembers, hKeyed⟩, hCompletes⟩
      exact ⟨_, ⟨raw, rfl, hMembers⟩, size?_object.mpr ⟨ms, hKeyed, completes_iff.mp hCompletes⟩⟩
    · rintro ⟨_, ⟨raw, rfl, hMembers⟩, hSize⟩
      obtain ⟨ms, hKeyed, hSides⟩ := size?_object.mp hSize
      exact ⟨ms, ⟨raw, hMembers, hKeyed⟩, completes_iff.mpr hSides⟩
  · next hList hObject =>
    constructor
    · intro hRead
      cases hRead
    · rintro ⟨v, hValue, hSize⟩
      cases hValue with
      | list _ => exact (hList _ rfl).elim
      | object _ => exact (hObject _ rfl).elim
      | _ => cases hSize

/-! ### Settings -/

/-- A member is read as what its value means for it. -/
theorem reads_field (into : Settings) (f : Field) :
    Reads (readField into f) fun v => (f.meaning? v).map (into.set f) := by
  cases f with
  | defaultSize => exact reads_size.map (into.set .defaultSize)
  | canvasSize => exact reads_side.map (into.set .canvasSize)
  | filter => exact reads_filter.map (into.set .filter)
  | allowUpscale => exact reads_bool.map (into.set .allowUpscale)
  | drawing => exact reads_drawing.map (into.set .drawing)
  | maxFileSize => exact reads_limit.map (into.set .maxFileSize)
  | maxDecodedPixels => exact reads_limit.map (into.set .maxDecodedPixels)

/-- The loop over the members of settings, which takes a step for each. -/
theorem readMembers_eq_ok {steps : Nat} {into x : Settings} {seen : List Field} {first : Bool}
    {s r : List Char} (hSteps : s.length < steps) :
    readMembers steps into seen first s = .ok (x, r) ↔
      ∃ ms, Entries first ms s r ∧ Merges into seen ms x := by
  induction steps generalizing into seen first s with
  | zero => exact absurd hSteps (Nat.not_lt_zero _)
  | succ steps ih =>
      have hMore (into : Settings) (seen : List Field) (w : List Char)
          (hLess : w.length < s.length) :
          readMembers steps into seen false w = .ok (x, r) ↔
            ∃ ms, Entries false ms w r ∧ Merges into seen ms x :=
        ih (Nat.lt_of_lt_of_le hLess (Nat.le_of_lt_succ hSteps))
      cases hKey : readKey? first s with
      | error f => simp [readMembers, hKey, not_entries hKey, bind, Except.bind]
      | ok result =>
          obtain ⟨key, t⟩ := result
          simp only [readMembers, hKey, bind_eq_ok, Except.ok.injEq, exists_eq_left']
          cases key with
          | none =>
              rw [exists_entries_of_end hKey, merges_nil]
              simp only [Option.map_none, bind_eq_ok]
              simp [pure, Except.pure, and_comm]
          | some key =>
              simp only [Option.map_some]
              cases hField : Field.ofKey? (String.ofList key) with
              | none =>
                  exact skipMember_eq_ok (fun w => readMembers steps into seen false w) hKey
                    (fun v ns => merges_cons_unknown hField) (hMore into seen)
              | some f =>
                  refine readMember_eq_ok (reads_field into f)
                    (fun into u => readMembers steps into (f :: seen) false u) hKey
                    (fun v ns => ?_) fun into => hMore into (f :: seen)
                  rw [← Field.ofKey?_eq_some.mp hField, merges_cons]
                  simp

/-- The loop over the elements of settings, in field order. -/
theorem readElements_eq_ok {into x : Settings} {first : Bool} {fields : List Field}
    {s r : List Char} :
    readElements into first fields s = .ok (x, r) ↔
      ∃ vs, Elements first vs s r ∧ inOrder? into fields vs = some x := by
  induction fields generalizing into first s with
  | nil =>
      have hNone (vs : List Json.Value) : inOrder? into [] vs = some x ↔ vs = [] ∧ into = x := by
        cases vs <;> simp [inOrder?]
      simp [readElements, map_eq_ok, hNone, elements_nil_iff, and_comm]
  | cons f fields ih =>
      cases hMore : readElement? first s with
      | error e => simp [readElements, hMore, not_elements hMore, bind, Except.bind]
      | ok result =>
          obtain ⟨more, t⟩ := result
          simp only [readElements, hMore, bind_eq_ok, Except.ok.injEq, exists_eq_left']
          cases more with
          | false =>
              obtain ⟨-, t', rfl, -⟩ | ⟨hTrue, -⟩ := readElement?_eq_ok hMore
              · -- The bracket is still there for the remaining fields.
                have hAgain : readElement? first (']' :: t') = .ok (false, ']' :: t') :=
                  readElement?_of_close (.refl _)
                rw [ih, exists_elements_of_last hAgain, exists_elements_of_last hMore]
                simp [inOrder?]
              · exact nomatch hTrue
          | true =>
              have hOrder (v : Json.Value) (vs : List Json.Value) :
                  inOrder? into (f :: fields) (v :: vs) = some x ↔
                    ∃ y, (f.meaning? v).map (into.set f) = some y ∧
                      inOrder? y fields vs = some x := by
                simp [inOrder?, Option.bind_eq_some_iff]
              rw [exists_elements_of_reads (reads_field into f) hMore hOrder]
              simp only [bind_eq_ok, Prod.exists, ih]

/-- Settings at the start of a text. -/
theorem readPart_eq_ok {s r : List Char} {x : Settings} :
    readPart s = .ok (x, r) ↔ ∃ v s', Blanks s s' ∧ Written v s' r ∧ Denotes v x := by
  rw [exists_written_iff]
  unfold readPart
  generalize skipBlanks s = t
  split
  · simp only [readElements_eq_ok, written_list_iff]
    constructor
    · rintro ⟨vs, hElements, hOrder⟩
      exact ⟨_, ⟨vs, rfl, hElements⟩, hOrder⟩
    · rintro ⟨_, ⟨vs, rfl, hElements⟩, hDenotes⟩
      exact ⟨vs, hElements, hDenotes⟩
  · simp only [readMembers_eq_ok (Nat.lt_succ_self _), written_object_iff]
    constructor
    · rintro ⟨ms, ⟨raw, hMembers, hKeyed⟩, hMerges⟩
      exact ⟨_, ⟨raw, rfl, hMembers⟩, ms, hKeyed, hMerges⟩
    · rintro ⟨_, ⟨raw, rfl, hMembers⟩, ms, hKeyed, hMerges⟩
      exact ⟨ms, ⟨raw, hMembers, hKeyed⟩, hMerges⟩
  · next hList hObject =>
    constructor
    · intro hRead
      cases hRead
    · rintro ⟨v, hValue, hDenotes⟩
      cases hValue with
      | list _ => exact (hList _ rfl).elim
      | object _ => exact (hObject _ rfl).elim
      | _ => exact hDenotes.elim

/-- Behind the settings only blanks may follow. -/
theorem expectEnd_eq_ok {s : List Char} : expectEnd s = .ok () ↔ Blanks s [] := by
  rw [blanks_nil_iff]
  unfold expectEnd
  split
  · next h => simp [h]
  · next h => exact ⟨nofun, fun hNil => (h hNil).elim⟩

/-- A text is read as settings just if it is the text of a value for them. -/
theorem read_eq_ok {s : List Char} {x : Settings} :
    read s = .ok x ↔ ∃ v, Text v s ∧ Denotes v x := by
  simp only [read, bind_eq_ok, Prod.exists, readPart_eq_ok]
  constructor
  · rintro ⟨y, r, ⟨v, s', hBlanks, hValue, hDenotes⟩, ⟨⟩, hEnd, hSame⟩
    obtain rfl := Except.ok.inj hSame
    exact ⟨v, ⟨s', r, hBlanks, hValue, expectEnd_eq_ok.mp hEnd⟩, hDenotes⟩
  · rintro ⟨v, ⟨s', r, hBlanks, hValue, hEnd⟩, hDenotes⟩
    exact ⟨x, r, ⟨v, s', hBlanks, hValue, hDenotes⟩, (), expectEnd_eq_ok.mpr hEnd, rfl⟩

end Iconsmith.Settings
