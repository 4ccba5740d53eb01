import Iconsmith.Proofs.Settings.Reading
import Iconsmith.Proofs.Settings.Store
import Iconsmith.Proofs.World.Observation

/-! What is saved is loaded again. The printed settings are the text of an
object that gives every member, and that object stands for the settings. -/
namespace Iconsmith.Settings

open Json

/-! ### Printed parts -/

/-- In front of a comma or a line feed, the text `t` spells the value `v`. -/
def Spells (t : String) (v : Json.Value) : Prop :=
  ∀ c r, c = ',' ∨ c = '\n' → Written v (t.toList ++ c :: r) (c :: r)

/-- A printed number is the number. -/
theorem spells_text (n : Nat) :
    Spells (Decimal.text n) (.number ⟨false, Decimal.digits n, [], []⟩) := by
  intro c r hc
  have hEnd : IntegerEnd (c :: r) := by
    rcases hc with rfl | rfl <;> exact ⟨by simp, by simp, by simp⟩
  have hDigit : NoDigit (c :: r) := by
    rw [noDigit_cons]
    rcases hc with rfl | rfl <;> simp [IsDigit]
  rw [Decimal.text, String.toList_ofList]
  exact .number (.positive (unsigned_integer_iff.mpr ⟨whole_digits n hDigit, hEnd⟩))

/-- A printed name is the name, if no character of it has to be escaped. -/
theorem spells_quote {name : String} (h : Plain name) :
    Spells (quote name) (.string (units name)) := by
  intro c r _
  simpa [quote] using Written.string (units_of_plain h (c :: r))

theorem spells_bool (b : Bool) : Spells (if b then "true" else "false") (.bool b) := by
  intro c r _
  cases b with
  | true => exact .boolTrue
  | false => exact .boolFalse

/-! ### Printed objects -/

/-- A member of an object: its key, its value, and the text of that. -/
structure Entry where
  key : String
  value : Json.Value
  text : String
  plain : Plain key
  spells : Spells text value

namespace Entry

/-- The line of a member, without the comma. -/
def line (indent : String) (e : Entry) : String := member indent e.key e.text

/-- The member as a part of the value. -/
def pair (e : Entry) : List Nat × Json.Value := (units e.key, e.value)

end Entry

/-- The object with the given members. -/
def objectOf (es : List Entry) : Json.Value := .object (es.map Entry.pair)

/-- The keys of printed members are texts. -/
theorem keyed?_entries (es : List Entry) :
    keyed? (es.map Entry.pair) = some (es.map fun e => (e.key, e.value)) := by
  induction es with
  | nil => rfl
  | cons e es ih =>
      exact keyed?_cons.mpr ⟨_, _, decode_units e.key, ih, by simp⟩

/-- A line is its key in quotes, a colon and its value. -/
theorem Entry.toList_line (indent : String) (e : Entry) :
    (e.line indent).toList =
      indent.toList ++ '"' :: (e.key.toList ++ '"' :: ':' :: ' ' :: e.text.toList) := by
  simp [line, member, quote]

/-- Lines are separated by a comma and a line break. -/
theorem toList_lines (l : String) (ls : List String) :
    (",\n".intercalate (l :: ls)).toList =
      l.toList ++ ls.flatMap fun l => ',' :: '\n' :: l.toList := by
  induction ls generalizing l with
  | nil => simp
  | cons l' ls ih => simp [String.intercalate_cons_cons, ih]

variable {indent inner : String}

/-- What stands behind the value of a member: the other members and the brace. -/
def remaining (indent inner : String) (es : List Entry) (r : List Char) : List Char :=
  es.flatMap (fun e => ',' :: '\n' :: (e.line inner).toList) ++
    '\n' :: (indent.toList ++ '\x7d' :: r)

theorem remaining_eq_cons (indent inner : String) (es : List Entry) (r : List Char) :
    ∃ c t, remaining indent inner es r = c :: t ∧ (c = ',' ∨ c = '\n') := by
  cases es with
  | nil => exact ⟨_, _, rfl, .inr rfl⟩
  | cons e es => exact ⟨_, _, rfl, .inl rfl⟩

/-- A line is a member. -/
theorem members_line (hInner : Blanks inner.toList []) {first : Bool} {s s₁ r : List Char}
    (e : Entry) {es : List Entry} {ms : List (List Nat × Json.Value)}
    (hSeparator : Separator first s s₁)
    (hBlanks : Blanks s₁ ((e.line inner).toList ++ remaining indent inner es r))
    (hMore : Members false ms (remaining indent inner es r) r) :
    Members first (e.pair :: ms) s r := by
  obtain ⟨c, t, hNext, hc⟩ := remaining_eq_cons indent inner es r
  have hValue := e.spells c t hc
  rw [← hNext] at hValue
  refine .member hSeparator (hBlanks.trans ?_) (units_of_plain e.plain _) (.refl _)
    ((Blanks.refl _).cons (by decide : isBlank ' ' = true)) hValue hMore
  rw [e.toList_line]
  simpa using hInner.append _

/-- The members behind the first are written one to a line, by induction on them. -/
theorem members_remaining (hIndent : Blanks indent.toList []) (hInner : Blanks inner.toList [])
    (es : List Entry) (r : List Char) :
    Members false (es.map Entry.pair) (remaining indent inner es r) r := by
  induction es with
  | nil => exact .close ((hIndent.append _).cons (by decide))
  | cons e es ih =>
      have hText : remaining indent inner (e :: es) r =
          ',' :: '\n' :: ((e.line inner).toList ++ remaining indent inner es r) := by
        simp [remaining]
      rw [hText]
      exact members_line hInner e (.comma (.refl _)) ((Blanks.refl _).cons (by decide)) ih

/-- A printed object is the text of an object, whatever comes behind it. -/
theorem written_object (hIndent : Blanks indent.toList []) (hInner : Blanks inner.toList [])
    (e : Entry) (es : List Entry) (r : List Char) :
    Written (objectOf (e :: es))
      ((object indent ((e :: es).map (Entry.line inner))).toList ++ r) r := by
  have hText : (object indent ((e :: es).map (Entry.line inner))).toList ++ r =
      '\x7b' :: '\n' :: ((e.line inner).toList ++ remaining indent inner es r) := by
    simp [object, -String.toList_intercalate, toList_lines, remaining, List.flatMap_map]
  rw [hText]
  exact .object (members_line hInner e .first ((Blanks.refl _).cons (by decide))
    (members_remaining hIndent hInner es r))

/-! ### Printed settings -/

/-- Every side can be read from its digits. -/
theorem side?_digits (n : UInt32) :
    side? (.number ⟨false, Decimal.digits n.toNat, [], []⟩) = some n :=
  side?_eq_some.mpr ⟨_, rfl, Decimal.digitsFrom?_digits _⟩

theorem limit?_digits (n : UInt64) :
    limit? (.number ⟨false, Decimal.digits n.toNat, [], []⟩) = some n :=
  limit?_eq_some.mpr ⟨_, rfl, Decimal.digitsFrom?_digits _⟩

theorem name?_units {known : List String} {name : String} (h : name ∈ known) :
    Json.Value.name? known (.string (units name)) = some name := by
  simp [Json.Value.name?, Json.Value.name?.named, decode_units, h]

theorem filter?_units (f : Filter) : filter? (.string (units f.name)) = some f := by
  have hKnown : f.name ∈ [Filter.nearest, .triangle, .catmullRom, .lanczos3].map Filter.name := by
    cases f <;> simp
  rw [filter?, name?_units hKnown]
  exact Filter.ofName?_name f

theorem drawing?_units (d : Drawing) : drawing? (.string (units d.name)) = some d := by
  cases d <;> rfl

/-- The members of a printed size. -/
def sizeEntries (size : Size) : List Entry := [
  ⟨"width", _, _, by decide, spells_text size.width.toNat⟩,
  ⟨"height", _, _, by decide, spells_text size.height.toNat⟩]

/-- A printed size is the object of its sides. -/
theorem spells_size (size : Size) : Spells (printSize size) (objectOf (sizeEntries size)) :=
  have hIndent : Blanks "  ".toList [] := ⟨_, by simp [isBlank], (List.append_nil _).symm⟩
  have hInner : Blanks "    ".toList [] := ⟨_, by simp [isBlank], (List.append_nil _).symm⟩
  fun _ _ _ => written_object hIndent hInner _ _ _

theorem size?_entries (size : Size) : size? (objectOf (sizeEntries size)) = some size :=
  size?_object.mpr ⟨_, keyed?_entries _, side?_digits size.width, side?_digits size.height⟩

theorem plain_filter (f : Filter) : Plain f.name := by cases f <;> decide

theorem plain_drawing (d : Drawing) : Plain d.name := by cases d <;> decide

/-- The members of printed settings. -/
def entries (s : Settings) : List Entry := [
  ⟨"default_size", _, _, by decide, spells_size s.defaultSize⟩,
  ⟨"canvas_size", _, _, by decide, spells_text s.canvasSize.toNat⟩,
  ⟨"resize_filter", _, _, by decide, spells_quote (plain_filter s.filter)⟩,
  ⟨"allow_upscale", _, _, by decide, spells_bool s.allowUpscale⟩,
  ⟨"svg_content", _, _, by decide, spells_quote (plain_drawing s.drawing)⟩,
  ⟨"max_file_size", _, _, by decide, spells_text s.maxFileSize.toNat⟩,
  ⟨"max_decoded_pixels", _, _, by decide, spells_text s.maxDecodedPixels.toNat⟩]

/-- Printed settings are the text of the object of their members. -/
theorem text_print (s : Settings) : Text (objectOf (entries s)) s.print.toList := by
  have hIndent : Blanks "".toList [] := .refl _
  have hInner : Blanks "  ".toList [] := ⟨_, by simp [isBlank], (List.append_nil _).symm⟩
  have hWritten : Written (objectOf (entries s)) (s.print.toList ++ []) [] :=
    written_object hIndent hInner _ _ []
  rw [List.append_nil] at hWritten
  exact ⟨_, _, .refl _, hWritten, .refl _⟩

/-- The printed object means the settings: every field is given once, with its own value. -/
theorem denotes_entries (s : Settings) : Denotes (objectOf (entries s)) s := by
  refine ⟨_, keyed?_entries _, fun f => .inr ⟨List.not_mem_nil, ?_⟩⟩
  cases f with
  | defaultSize => exact ⟨_, rfl, size?_entries s.defaultSize⟩
  | canvasSize => exact ⟨_, rfl, side?_digits s.canvasSize⟩
  | filter => exact ⟨_, rfl, filter?_units s.filter⟩
  | allowUpscale => exact ⟨_, rfl, rfl⟩
  | drawing => exact ⟨_, rfl, drawing?_units s.drawing⟩
  | maxFileSize => exact ⟨_, rfl, limit?_digits s.maxFileSize⟩
  | maxDecodedPixels => exact ⟨_, rfl, limit?_digits s.maxDecodedPixels⟩

/-- Printed settings are read as they were. -/
theorem read_print (s : Settings) : read s.print.toList = .ok s :=
  read_eq_ok.mpr ⟨_, text_print s, denotes_entries s⟩

/-! ### The settings file -/

/-- Saving succeeds only by writing the printed settings. -/
theorem read_of_save {path : String} {s : Settings} {w : World}
    (h : ((save path s).perform w).1 = .done ()) :
    ((save path s).perform w).2.files.read path = .ok s.print.toUTF8 := by
  have hDone : (save path s).perform w = (.done (), ((save path s).perform w).2) := Prod.ext h rfl
  exact Action.read_of_write hDone

/-- Settings that are saved are loaded as they were, valid or not, and whatever
the file held before. -/
theorem load_save {ε : Type} {path : String} {s : Settings} {w : World}
    (h : ((save path s).perform w).1 = .done ()) :
    ((load path : Action ε Settings).perform ((save path s).perform w).2).1 = .done s := by
  rw [load_eq_stored, stored_of_text (read_of_save h), read_print]
  rfl

/-- Settings with the greatest numbers and a canvas that is not valid, in place
of a file that held something else. -/
theorem load_save_greatest :
    let s : Settings := ⟨⟨0xFFFFFFFF, 0⟩, 0, .catmullRom, false, .file, 0xFFFFFFFFFFFFFFFF, 1⟩
    let w : World := ⟨⟨[(["work", "conf", "icon.json"], .file ⟨#[0xFF]⟩),
      (["work", "conf"], .directory), (["work"], .directory)], ["work"]⟩, []⟩
    ((save "conf/icon.json" s).perform w).1 = .done () ∧
      ((load "conf/icon.json" : Action CommandError Settings).perform
        ((save "conf/icon.json" s).perform w).2).1 = .done s := by
  intro s w
  have hSaved : ((save "conf/icon.json" s).perform w).1 = .done () := by decide
  exact ⟨hSaved, load_save hSaved⟩

end Iconsmith.Settings
