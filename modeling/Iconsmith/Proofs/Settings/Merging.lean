import Iconsmith.Proofs.Settings.Reading
import Iconsmith.Proofs.Settings.Store

/-! A settings file may give only some of the members. It is taken as a whole or
not at all. -/
namespace Iconsmith.Settings

open Json

variable {raw : List (List Nat × Json.Value)} {s : Settings}

/-- The values that the members of an object give for a key. -/
def valuesOf (key : String) (raw : List (List Nat × Json.Value)) : List Json.Value :=
  (raw.filter fun m => decode m.1 = some key.toList).map Prod.snd

/-- Every key is a text. -/
def Legible (raw : List (List Nat × Json.Value)) : Prop := ∀ m ∈ raw, (decode m.1).isSome

/-- Every member of settings is given at most once, with a value it accepts. -/
def Acceptable (raw : List (List Nat × Json.Value)) : Prop :=
  ∀ f : Field, valuesOf f.key raw = [] ∨ ∃ v, valuesOf f.key raw = [v] ∧ (f.meaning? v).isSome

/-- Every member of the settings is the given one, or the default if none is given. -/
def MergedFrom (raw : List (List Nat × Json.Value)) (s : Settings) : Prop :=
  ∀ f : Field, valuesOf f.key raw = [] ∧ s.get f = default.get f ∨
    ∃ v, valuesOf f.key raw = [v] ∧ f.meaning? v = some (s.get f)

/-- The keys of an object can be told apart just if all of them can be decoded. -/
theorem exists_keyed?_iff : (∃ ms, keyed? raw = some ms) ↔ Legible raw := by
  induction raw with
  | nil => exact ⟨fun _ => nofun, fun _ => ⟨[], rfl⟩⟩
  | cons m raw ih =>
      have hCons : Legible (m :: raw) ↔ (decode m.1).isSome ∧ Legible raw := List.forall_mem_cons
      rw [hCons, ← ih, Option.isSome_iff_exists]
      constructor
      · rintro ⟨ms, hKeyed⟩
        obtain ⟨cs, ns, hKey, hMore, -⟩ := keyed?_cons.mp hKeyed
        exact ⟨⟨cs, hKey⟩, ns, hMore⟩
      · rintro ⟨⟨cs, hKey⟩, ns, hMore⟩
        exact ⟨_, keyed?_cons.mpr ⟨cs, ns, hKey, hMore, rfl⟩⟩

/-- Once all keys are decoded, the values that are given for one are those of its members. -/
theorem given_of_keyed? {ms : List (String × Json.Value)} (h : keyed? raw = some ms)
    (key : String) : given key ms = valuesOf key raw := by
  induction raw generalizing ms with
  | nil =>
      obtain rfl := Option.some.inj h
      rfl
  | cons m raw ih =>
      obtain ⟨cs, ns, hKey, hMore, rfl⟩ := keyed?_cons.mp h
      have hSame : String.ofList cs = key ↔ cs = key.toList := by
        constructor
        · rintro rfl
          exact String.toList_ofList.symm
        · rintro rfl
          exact String.ofList_toList
      have hValues : valuesOf key (m :: raw) =
          if cs = key.toList then m.2 :: valuesOf key raw else valuesOf key raw := by
        simp only [valuesOf, List.filter_cons, hKey, Option.some.injEq, decide_eq_true_eq]
        split <;> rfl
      rw [hValues, ← ih hMore]
      by_cases hKey : String.ofList cs = key
      · rw [if_pos (hSame.mp hKey), ← hKey, given_cons_self]
      · rw [if_neg (mt hSame.mpr hKey), given_cons_of_ne hKey]

/-- An object means the settings that its legible members are merged into. -/
theorem denotes_object_iff : Denotes (.object raw) s ↔ Legible raw ∧ MergedFrom raw s := by
  rw [← exists_keyed?_iff]
  have hMerges {ms : List (String × Json.Value)} (h : keyed? raw = some ms) :
      Merges .default [] ms s ↔ MergedFrom raw s := by
    refine forall_congr' fun f => ?_
    have hDefault : some (default.get f) = some (s.get f) ↔ s.get f = default.get f := by
      rw [Option.some.injEq, eq_comm]
    simp only [Slot, given_of_keyed? h, hDefault, List.not_mem_nil, not_false_iff, true_and]
  constructor
  · rintro ⟨ms, hKeyed, h⟩
    exact ⟨⟨ms, hKeyed⟩, (hMerges hKeyed).mp h⟩
  · rintro ⟨⟨ms, hKeyed⟩, h⟩
    exact ⟨ms, hKeyed, (hMerges hKeyed).mpr h⟩

/-- Settings are put together from their members. -/
theorem exists_of_fields {P : (f : Field) → f.Value → Prop} (h : ∀ f, ∃ x, P f x) :
    ∃ s : Settings, ∀ f, P f (s.get f) := by
  obtain ⟨size, hSize⟩ := h .defaultSize
  obtain ⟨canvas, hCanvas⟩ := h .canvasSize
  obtain ⟨filter, hFilter⟩ := h .filter
  obtain ⟨upscale, hUpscale⟩ := h .allowUpscale
  obtain ⟨drawing, hDrawing⟩ := h .drawing
  obtain ⟨bytes, hBytes⟩ := h .maxFileSize
  obtain ⟨pixels, hPixels⟩ := h .maxDecodedPixels
  refine ⟨⟨size, canvas, filter, upscale, drawing, bytes, pixels⟩, fun f => ?_⟩
  cases f <;> assumption

/-- There are merged settings just for acceptable members. -/
theorem exists_mergedFrom_iff : (∃ s, MergedFrom raw s) ↔ Acceptable raw := by
  constructor
  · rintro ⟨s, h⟩ f
    obtain ⟨hNone, -⟩ | ⟨v, hGiven, hMeaning⟩ := h f
    · exact .inl hNone
    · exact .inr ⟨v, hGiven, Option.isSome_of_eq_some hMeaning⟩
  · intro h
    refine exists_of_fields (P := fun f x => valuesOf f.key raw = [] ∧ x = default.get f ∨
      ∃ v, valuesOf f.key raw = [v] ∧ f.meaning? v = some x) fun f => ?_
    obtain hNone | ⟨v, hGiven, hMeaning⟩ := h f
    · exact ⟨default.get f, .inl ⟨hNone, rfl⟩⟩
    · obtain ⟨x, hx⟩ := Option.isSome_iff_exists.mp hMeaning
      exact ⟨x, .inr ⟨v, hGiven, hx⟩⟩

variable {ε : Type} {path : String} {w : World} {content : ByteArray}

/-- The default settings stand in for a file that gives none. -/
theorem load_of_no_settings (hContent : w.files.read path = .ok content)
    (h : ∀ text : String, text.toUTF8 = content → ∀ s, read text.toList ≠ .ok s) :
    ((load path : Action ε Settings).perform w).1 = .done .default := by
  rw [load_eq_stored, stored_of_no_settings hContent h]

/-- What is read from the text of an object are the settings that it is merged into. -/
theorem read_object_iff {t : List Char} (h : Text (.object raw) t) :
    read t = .ok s ↔ Legible raw ∧ MergedFrom raw s := by
  rw [read_eq_ok, ← denotes_object_iff]
  constructor
  · rintro ⟨v, hValue, hDenotes⟩
    exact h.unique hValue ▸ hDenotes
  · exact fun hDenotes => ⟨_, h, hDenotes⟩

/-- An object with legible keys and acceptable values is merged with the defaults. -/
theorem load_of_object {text : String} (hContent : w.files.read path = .ok text.toUTF8)
    (h : Text (.object raw) text.toList) (hLegible : Legible raw) (hAcceptable : Acceptable raw) :
    ∃ s, ((load path : Action ε Settings).perform w).1 = .done s ∧ MergedFrom raw s := by
  obtain ⟨s, hMerged⟩ := exists_mergedFrom_iff.mpr hAcceptable
  refine ⟨s, ?_, hMerged⟩
  rw [load_eq_stored, stored_of_text hContent, (read_object_iff h).mpr ⟨hLegible, hMerged⟩]
  rfl

/-- Any other object gives nothing, however many of its members are right. -/
theorem load_of_refused_object {text : String} (hContent : w.files.read path = .ok text.toUTF8)
    (h : Text (.object raw) text.toList) (hRefused : ¬(Legible raw ∧ Acceptable raw)) :
    ((load path : Action ε Settings).perform w).1 = .done .default := by
  refine load_of_no_settings hContent fun text' hText' s hRead => ?_
  obtain rfl := toUTF8_injective hText'
  obtain ⟨hLegible, hMerged⟩ := (read_object_iff h).mp hRead
  exact hRefused ⟨hLegible, exists_mergedFrom_iff.mp ⟨s, hMerged⟩⟩

/-- What the settings file holds is merged into the defaults as a whole or not at
all. A text of an object whose keys are texts, and which gives every member at
most once and with a value it accepts, stands for the given members and the
defaults of the others. With any other object, with something behind the value,
and without a JSON text, the file stands for the defaults. -/
theorem load_merges (hContent : w.files.read path = .ok content) :
    let loaded := ((load path : Action ε Settings).perform w).1
    (∀ text : String, text.toUTF8 = content → ∀ raw, Text (.object raw) text.toList →
      (Legible raw ∧ Acceptable raw → ∃ s, loaded = .done s ∧ MergedFrom raw s) ∧
      (¬(Legible raw ∧ Acceptable raw) → loaded = .done .default)) ∧
    (∀ text : String, text.toUTF8 = content → ∀ v s r c t, Blanks text.toList s →
      Written v s r → Blanks r (c :: t) → isBlank c = false → loaded = .done .default) ∧
    ((¬∃ text : String, text.toUTF8 = content ∧ ∃ v, Text v text.toList) →
      loaded = .done .default) := by
  refine ⟨?_, ?_, ?_⟩
  · rintro text rfl raw hRaw
    exact ⟨fun ⟨hLegible, hAcceptable⟩ => load_of_object hContent hRaw hLegible hAcceptable,
      load_of_refused_object hContent hRaw⟩
  · rintro text rfl v s r c t hBlanks hValue hTrailing hc
    refine load_of_no_settings hContent fun text' hText' s hRead => ?_
    obtain rfl := toUTF8_injective hText'
    obtain ⟨v', hWhole, -⟩ := read_eq_ok.mp hRead
    exact not_text_of_trailing hBlanks hValue hTrailing hc hWhole
  · intro hNone
    refine load_of_no_settings hContent fun text hText s hRead => ?_
    obtain ⟨v, hWhole, -⟩ := read_eq_ok.mp hRead
    exact hNone ⟨text, hText, v, hWhole⟩

/-- A file `c.json` with a text in it. -/
def fileWorld (text : String) : World :=
  ⟨⟨[(["work", "c.json"], .file text.toUTF8), (["work"], .directory)], ["work"]⟩, []⟩

theorem read_fileWorld (text : String) : (fileWorld text).files.read "c.json" = .ok text.toUTF8 :=
  rfl

/-- A key that stands for no text spoils the members beside it. -/
theorem load_not_always_merged :
    ¬∀ (path : String) (w : World) (text : String) (raw : List (List Nat × Json.Value)),
      w.files.read path = .ok text.toUTF8 → Text (.object raw) text.toList → Acceptable raw →
      ∃ s, ((load path : Action CommandError Settings).perform w).1 = .done s ∧
        MergedFrom raw s := by
  let text := "\x7b\"allow_upscale\":false,\"\\ud800\":null\x7d"
  let raw := [(units "allow_upscale", Json.Value.bool false), ([0xD800], .null)]
  have hChars : text.toList = '\x7b' :: '"' :: ("allow_upscale".toList ++ '"' :: ':' :: 'f' ::
      'a' :: 'l' :: 's' :: 'e' :: ',' :: '"' :: '\\' :: 'u' :: 'd' :: '8' :: '0' :: '0' :: '"' ::
      ':' :: 'n' :: 'u' :: 'l' :: 'l' :: '\x7d' :: []) := by decide
  have hHalf : hexUnit? 'd' '8' '0' '0' = some 0xD800 := by decide
  have hSecond := Members.member (.comma (.refl _)) (.refl _) (.hex hHalf .close) (.refl _)
    (.refl _) .null (.close (.refl ('\x7d' :: [])))
  have hText : Text (.object raw) text.toList := by
    rw [hChars]
    exact ⟨_, _, .refl _, .object (.member .first (.refl _) (units_of_plain (by decide) _) (.refl _)
      (.refl _) .boolFalse hSecond), .refl _⟩
  have hAcceptable : Acceptable raw := by
    intro f
    cases f with
    | allowUpscale => exact .inr ⟨.bool false, rfl, rfl⟩
    | _ => exact .inl rfl
  intro hAll
  obtain ⟨s, hLoaded, hMerged⟩ := hAll "c.json" (fileWorld text) text raw (read_fileWorld text)
    hText hAcceptable
  have hIllegible : ¬(Legible raw ∧ Acceptable raw) := by
    rintro ⟨hLegible, -⟩
    exact absurd (hLegible ([0xD800], .null) (by simp [raw])) (by decide)
  have hRefused := load_of_refused_object (ε := CommandError) (read_fileWorld text) hText
    hIllegible
  obtain rfl := Ending.done.inj (hRefused.symm.trans hLoaded)
  obtain ⟨hNone, -⟩ | ⟨v, hGiven, hMeaning⟩ := hMerged .allowUpscale
  · exact nomatch hNone
  · obtain rfl : Json.Value.bool false = v := (List.cons.inj hGiven).1
    exact nomatch hMeaning

/-- One member is given, the others are the defaults. -/
theorem load_merges_upscale :
    let text := "\x7b\"allow_upscale\":false\x7d"
    (fileWorld text).files.read "c.json" = .ok text.toUTF8 ∧
      ∃ s, ((load "c.json" : Action CommandError Settings).perform (fileWorld text)).1 = .done s ∧
        s.allowUpscale = false ∧ s.canvasSize = Settings.default.canvasSize := by
  intro text
  let raw := [(units "allow_upscale", Json.Value.bool false)]
  have hContent := read_fileWorld text
  have hChars : text.toList = '\x7b' :: '"' :: ("allow_upscale".toList ++ '"' :: ':' :: 'f' ::
      'a' :: 'l' :: 's' :: 'e' :: '\x7d' :: []) := by decide
  have hText : Text (.object raw) text.toList := by
    rw [hChars]
    exact ⟨_, _, .refl _, .object (.member .first (.refl _) (units_of_plain (by decide) _) (.refl _)
      (.refl _) .boolFalse (.close (.refl ('\x7d' :: [])))), .refl _⟩
  have hLegible : Legible raw := by simp [Legible, raw, decode_units]
  have hAcceptable : Acceptable raw := by
    intro f
    cases f with
    | allowUpscale => exact .inr ⟨.bool false, rfl, rfl⟩
    | _ => exact .inl rfl
  obtain ⟨s, hLoaded, hMerged⟩ := ((load_merges hContent).1 text rfl raw hText).1
    ⟨hLegible, hAcceptable⟩
  refine ⟨hContent, s, hLoaded, ?_, ?_⟩
  · obtain ⟨hNone, -⟩ | ⟨v, hGiven, hMeaning⟩ := hMerged .allowUpscale
    · exact nomatch hNone
    · obtain rfl : Json.Value.bool false = v := (List.cons.inj hGiven).1
      exact (Option.some.inj hMeaning).symm
  · obtain ⟨-, hDefault⟩ | ⟨v, hGiven, -⟩ := hMerged .canvasSize
    · exact hDefault
    · exact nomatch hGiven

end Iconsmith.Settings
