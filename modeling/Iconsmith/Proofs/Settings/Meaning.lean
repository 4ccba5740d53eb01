import Iconsmith.Proofs.Json.Containers
import Iconsmith.Settings.Reader

/-! What JSON values mean as settings, apart from how they are read. -/
namespace Iconsmith.Settings

open Json

/-! ### Values of members -/

/-- A side of a size. -/
def side? (v : Json.Value) : Option UInt32 := (v.natural? UInt32.size).map Nat.toUInt32

/-- A limit. -/
def limit? (v : Json.Value) : Option UInt64 := (v.natural? UInt64.size).map Nat.toUInt64

/-- A filter by name. -/
def filter? (v : Json.Value) : Option Filter :=
  (v.name? ([Filter.nearest, .triangle, .catmullRom, .lanczos3].map Filter.name)).bind
    Filter.ofName?

/-- A drawing by name. -/
def drawing? (v : Json.Value) : Option Drawing :=
  (v.name? ([Drawing.embedded, .file].map Drawing.name)).bind Drawing.ofName?

/-- The value of a key that is given just once. -/
def once? (key : String) (ms : List (String × Json.Value)) : Option Json.Value :=
  match given key ms with
  | [v] => some v
  | _ => none

/-- A size: a list of both sides, or an object that gives each of them once. -/
def size? : Json.Value → Option Size
  | .list [width, height] => do
    let width ← side? width
    let height ← side? height
    return ⟨width, height⟩
  | .object raw => do
    let ms ← keyed? raw
    let width ← (once? "width" ms).bind side?
    let height ← (once? "height" ms).bind side?
    return ⟨width, height⟩
  | _ => none

/-- A side is a number in digits that fits 32 bits. -/
theorem side?_eq_some {v : Json.Value} {n : UInt32} :
    side? v = some n ↔
      ∃ w, v = .number ⟨false, w, [], []⟩ ∧ Decimal.digitsFrom? 0 w = some n.toNat := by
  simp only [side?, Option.map_eq_some_iff, natural?_eq_some]
  constructor
  · rintro ⟨m, ⟨w, rfl, hDigits, hm⟩, rfl⟩
    exact ⟨w, rfl, by rw [hDigits, UInt32.toNat_ofNat_of_lt' hm]⟩
  · rintro ⟨w, rfl, hDigits⟩
    exact ⟨n.toNat, ⟨w, rfl, hDigits, n.toNat_lt_size⟩, UInt32.ofNat_toNat⟩

theorem limit?_eq_some {v : Json.Value} {n : UInt64} :
    limit? v = some n ↔
      ∃ w, v = .number ⟨false, w, [], []⟩ ∧ Decimal.digitsFrom? 0 w = some n.toNat := by
  simp only [limit?, Option.map_eq_some_iff, natural?_eq_some]
  constructor
  · rintro ⟨m, ⟨w, rfl, hDigits, hm⟩, rfl⟩
    exact ⟨w, rfl, by rw [hDigits, UInt64.toNat_ofNat_of_lt' hm]⟩
  · rintro ⟨w, rfl, hDigits⟩
    exact ⟨n.toNat, ⟨w, rfl, hDigits, n.toNat_lt_size⟩, UInt64.ofNat_toNat⟩

/-- A member counts if its key is given just once. -/
theorem once?_eq_some {key : String} {ms : List (String × Json.Value)} {v : Json.Value} :
    once? key ms = some v ↔ given key ms = [v] := by
  unfold once?
  split
  · next w hGiven => simp [hGiven]
  · next hOther => exact ⟨nofun, fun hGiven => (hOther v hGiven).elim⟩

/-- As a list a size has two elements, the width first. -/
theorem size?_list {vs : List Json.Value} {size : Size} :
    size? (.list vs) = some size ↔
      ∃ w, side? w = some size.width ∧ ∃ h, side? h = some size.height ∧ vs = [w, h] := by
  obtain ⟨width, height⟩ := size
  match vs with
  | [] | [_] | _ :: _ :: _ :: _ => simp [size?]
  | [w, h] =>
      simp only [size?, bind, Option.bind_eq_some_iff, pure, Option.some.injEq, Size.mk.injEq,
        List.cons.injEq, and_true]
      constructor
      · rintro ⟨x, hx, y, hy, rfl, rfl⟩
        exact ⟨w, hx, h, hy, rfl, rfl⟩
      · rintro ⟨_, hx, _, hy, rfl, rfl⟩
        exact ⟨width, hx, height, hy, rfl, rfl⟩

/-- As an object it has both sides once, among any other members. -/
theorem size?_object {raw : List (List Nat × Json.Value)} {size : Size} :
    size? (.object raw) = some size ↔
      ∃ ms, keyed? raw = some ms ∧ (once? "width" ms).bind side? = some size.width ∧
        (once? "height" ms).bind side? = some size.height := by
  obtain ⟨width, height⟩ := size
  simp only [size?, bind, pure]
  rw [Option.bind_eq_some_iff]
  refine exists_congr fun ms => and_congr_right fun _ => ?_
  cases (once? "width" ms).bind side? <;> cases (once? "height" ms).bind side? <;> simp

/-! ### Members -/

/-- What a member holds. -/
def Field.Value : Field → Type
  | .defaultSize => Size
  | .canvasSize => UInt32
  | .filter => Filter
  | .allowUpscale => Bool
  | .drawing => Drawing
  | .maxFileSize => UInt64
  | .maxDecodedPixels => UInt64

/-- What a JSON value means for a member; nothing if the member does not accept it. -/
def Field.meaning? : (f : Field) → Json.Value → Option f.Value
  | .defaultSize => size?
  | .canvasSize => side?
  | .filter => filter?
  | .allowUpscale => Json.Value.bool?
  | .drawing => drawing?
  | .maxFileSize => limit?
  | .maxDecodedPixels => limit?

/-- A member of settings. -/
def get (s : Settings) : (f : Field) → f.Value
  | .defaultSize => s.defaultSize
  | .canvasSize => s.canvasSize
  | .filter => s.filter
  | .allowUpscale => s.allowUpscale
  | .drawing => s.drawing
  | .maxFileSize => s.maxFileSize
  | .maxDecodedPixels => s.maxDecodedPixels

/-- Settings with another value for one member. -/
def set (s : Settings) : (f : Field) → f.Value → Settings
  | .defaultSize, v => { s with defaultSize := v }
  | .canvasSize, v => { s with canvasSize := v }
  | .filter, v => { s with filter := v }
  | .allowUpscale, v => { s with allowUpscale := v }
  | .drawing, v => { s with drawing := v }
  | .maxFileSize, v => { s with maxFileSize := v }
  | .maxDecodedPixels, v => { s with maxDecodedPixels := v }

@[simp] theorem get_set_self (s : Settings) (f : Field) (v : f.Value) : (s.set f v).get f = v := by
  cases f <;> rfl

/-- Setting a field leaves all others as they are. -/
theorem get_set_of_ne (s : Settings) {f g : Field} (v : f.Value) (h : g ≠ f) :
    (s.set f v).get g = s.get g := by
  cases f <;> cases g <;> first | rfl | exact absurd rfl h

theorem ext_get {s t : Settings} (h : ∀ f, s.get f = t.get f) : s = t := by
  cases s
  cases t
  congr
  · exact h .defaultSize
  · exact h .canvasSize
  · exact h .filter
  · exact h .allowUpscale
  · exact h .drawing
  · exact h .maxFileSize
  · exact h .maxDecodedPixels

theorem Field.key_injective {f g : Field} (h : f.key = g.key) : f = g :=
  Option.some.inj ((Field.ofKey?_key f).symm.trans (h ▸ Field.ofKey?_key g))

/-- Every key stands for one field. -/
theorem Field.ofKey?_eq_some {key : String} {f : Field} :
    Field.ofKey? key = some f ↔ f.key = key := by
  constructor
  · intro h
    simpa using List.find?_some h
  · rintro rfl
    exact Field.ofKey?_key f

/-! ### Settings -/

/-- The settings that a list of values in field order gives, where those left
out at the end stay as they are. -/
def inOrder? (into : Settings) : List Field → List Json.Value → Option Settings
  | _, [] => some into
  | [], _ :: _ => none
  | f :: fields, v :: vs => (f.meaning? v).bind fun x => inOrder? (into.set f x) fields vs

/-- The settings `s` are `into` with the members `ms` merged into it. Each
member is given at most once, and not at all if it is among the `seen` ones. -/
def Merges (into : Settings) (seen : List Field) (ms : List (String × Json.Value))
    (s : Settings) : Prop :=
  ∀ f : Field, Slot f.key f.meaning? (f ∉ seen) (some (into.get f)) ms (s.get f)

/-- A value stands for settings. -/
def Denotes : Json.Value → Settings → Prop
  | .list vs, s => inOrder? .default Field.all vs = some s
  | .object raw, s => ∃ ms, keyed? raw = some ms ∧ Merges .default [] ms s
  | _, _ => False

variable {into s : Settings} {seen : List Field} {key : String} {v : Json.Value}
  {ms : List (String × Json.Value)} {f : Field}

theorem merges_nil : Merges into seen [] s ↔ into = s := by
  simp only [Merges, slot_nil, Option.some.injEq]
  exact ⟨ext_get, fun h f => h ▸ rfl⟩

/-- A member that is not known changes nothing. -/
theorem merges_cons_unknown (h : Field.ofKey? key = none) :
    Merges into seen ((key, v) :: ms) s ↔ Merges into seen ms s := by
  have hNe (f : Field) : key ≠ f.key := by
    rintro rfl
    exact nomatch (Field.ofKey?_key f).symm.trans h
  simp only [Merges, slot_cons_of_ne (hNe _)]

/-- A known member is merged if it is new, and then it has been seen. -/
theorem merges_cons :
    Merges into seen ((f.key, v) :: ms) s ↔
      f ∉ seen ∧ ∃ x, f.meaning? v = some x ∧ Merges (into.set f x) (f :: seen) ms s := by
  have hOther (g : Field) (hg : g ≠ f) (x : f.Value) :
      Slot g.key g.meaning? (g ∉ seen) (some (into.get g)) ((f.key, v) :: ms) (s.get g) ↔
        Slot g.key g.meaning? (g ∉ f :: seen) (some ((into.set f x).get g)) ms (s.get g) := by
    rw [slot_cons_of_ne fun hKey => hg (Field.key_injective hKey).symm, get_set_of_ne into x hg]
    simp [hg]
  constructor
  · intro hMerges
    obtain ⟨hNew, x, hMeaning, hSlot⟩ := (slot_cons_self v ms).mp (hMerges f)
    refine ⟨hNew, x, hMeaning, fun g => ?_⟩
    by_cases hg : g = f
    · subst hg
      simpa using hSlot
    · exact (hOther g hg x).mp (hMerges g)
  · rintro ⟨hNew, x, hMeaning, hMerges⟩ g
    by_cases hg : g = f
    · subst hg
      exact (slot_cons_self v ms).mpr ⟨hNew, x, hMeaning, by simpa using hMerges g⟩
    · exact (hOther g hg x).mpr (hMerges g)

end Iconsmith.Settings
