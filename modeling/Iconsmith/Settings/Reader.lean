import Iconsmith.Json.Reader
import Iconsmith.Settings

/-!
Reading settings from JSON. Members may come in any order; a known one may come only once, unknown
ones are skipped, and those not given keep their defaults. Settings may also be written as a list
in field order. A size has no defaults: both sides must be given.
-/

namespace Iconsmith.Settings

open Json

/-! ### Sizes -/

/-- The sides of a size read so far. -/
structure GivenSize where
  width : Option UInt32
  height : Option UInt32

def readSide (s : List Char) : Reading UInt32 :=
  (readUnsigned UInt32.size "u32" s).map fun (n, r) => (n.toUInt32, r)

def sizeShape : String := "struct RasterSize"

def readSizeMembers : Nat → GivenSize → Bool → List Char → Except Fault (Size × List Char)
  | 0, _, _, s => .error (.here .endInObject s)
  | steps + 1, given, first, s => do
    let (key, r) ← readKey? first s
    match key.map String.ofList with
    | none =>
      match given.width, given.height with
      | none, _ => .error (.here (.missingField "width") (afterObject r))
      | some _, none => .error (.here (.missingField "height") (afterObject r))
      | some w, some h => (closeObject r).map fun r => (⟨w, h⟩, r)
    | some "width" =>
      if given.width.isSome then .error (.here (.duplicateField "width") (afterObject r))
      else
        let (w, r) ← readSide (← readColon r)
        readSizeMembers steps { given with width := some w } false r
    | some "height" =>
      if given.height.isSome then .error (.here (.duplicateField "height") (afterObject r))
      else
        let (h, r) ← readSide (← readColon r)
        readSizeMembers steps { given with height := some h } false r
    | some _ => readSizeMembers steps given false (← skipValue (← readColon r))

def readSizeElements (s : List Char) : Except Fault (Size × List Char) := do
  let missing (n : Nat) (r : List Char) : Reading Size :=
    .error (.here (.wrongLength n (sizeShape ++ " with 2 elements")) (afterList r))
  match ← readElement? true s with
  | (false, r) => missing 0 r
  | (true, r) =>
    let (w, r) ← readSide r
    match ← readElement? false r with
    | (false, r) => missing 1 r
    | (true, r) =>
      let (h, r) ← readSide r
      return (⟨w, h⟩, ← closeList r)

def readSize (s : List Char) : Reading Size :=
  match skipBlanks s with
  | '[' :: r => readSizeElements r
  | '\x7b' :: r => readSizeMembers (r.length + 1) ⟨none, none⟩ true r
  | r => .error (wrongKind sizeShape r)

/-! ### Settings -/

inductive Field where
  | defaultSize
  | canvasSize
  | filter
  | allowUpscale
  | drawing
  | maxFileSize
  | maxDecodedPixels
deriving DecidableEq, Repr

def Field.key : Field → String
  | .defaultSize => "default_size"
  | .canvasSize => "canvas_size"
  | .filter => "resize_filter"
  | .allowUpscale => "allow_upscale"
  | .drawing => "svg_content"
  | .maxFileSize => "max_file_size"
  | .maxDecodedPixels => "max_decoded_pixels"

/-- All members, in the order of the list form. -/
def Field.all : List Field :=
  [.defaultSize, .canvasSize, .filter, .allowUpscale, .drawing, .maxFileSize, .maxDecodedPixels]

def Field.ofKey? (key : String) : Option Field := Field.all.find? fun f => f.key == key

theorem Field.ofKey?_key (f : Field) : Field.ofKey? f.key = some f := by
  cases f <;> rfl

def readLimit (s : List Char) : Reading UInt64 :=
  (readUnsigned UInt64.size "u64" s).map fun (n, r) => (n.toUInt64, r)

def readFilter (s : List Char) : Except Fault (Filter × List Char) := do
  let known := [Filter.nearest, .triangle, .catmullRom, .lanczos3]
  let (name, r) ← readName (known.map Filter.name) s
  return ((Filter.ofName? name).getD .lanczos3, r)

def readDrawing (s : List Char) : Except Fault (Drawing × List Char) := do
  let (name, r) ← readName ([Drawing.embedded, .file].map Drawing.name) s
  return ((Drawing.ofName? name).getD .embedded, r)

def readField (into : Settings) (f : Field) (s : List Char) : Reading Settings :=
  match f with
  | .defaultSize => (readSize s).map fun (v, r) => ({ into with defaultSize := v }, r)
  | .canvasSize => (readSide s).map fun (v, r) => ({ into with canvasSize := v }, r)
  | .filter => (readFilter s).map fun (v, r) => ({ into with filter := v }, r)
  | .allowUpscale => (readBool s).map fun (v, r) => ({ into with allowUpscale := v }, r)
  | .drawing => (readDrawing s).map fun (v, r) => ({ into with drawing := v }, r)
  | .maxFileSize => (readLimit s).map fun (v, r) => ({ into with maxFileSize := v }, r)
  | .maxDecodedPixels =>
    (readLimit s).map fun (v, r) => ({ into with maxDecodedPixels := v }, r)

/-- The members of settings up to the closing brace; `seen` are the known ones read so far. -/
def readMembers : Nat → Settings → List Field → Bool → List Char →
    Except Fault (Settings × List Char)
  | 0, _, _, _, s => .error (.here .endInObject s)
  | steps + 1, into, seen, first, s => do
    let (key, r) ← readKey? first s
    match key.map String.ofList with
    | none => return (into, ← closeObject r)
    | some key =>
      match Field.ofKey? key with
      | none => readMembers steps into seen false (← skipValue (← readColon r))
      | some f =>
        if f ∈ seen then .error (.here (.duplicateField f.key) (afterObject r))
        else
          let (into, r) ← readField into f (← readColon r)
          readMembers steps into (f :: seen) false r

/-- The elements of settings written as a list; those left out at the end keep their defaults. -/
def readElements (into : Settings) (first : Bool) : List Field → List Char →
    Except Fault (Settings × List Char)
  | [], s => (closeList s).map fun r => (into, r)
  | f :: fields, s => do
    match ← readElement? first s with
    | (false, r) => readElements into first fields r
    | (true, r) =>
      let (into, r) ← readField into f r
      readElements into false fields r

/-- Settings at the start of a text. -/
def readPart (s : List Char) : Reading Settings :=
  match skipBlanks s with
  | '[' :: r => readElements .default true Field.all r
  | '\x7b' :: r => readMembers (r.length + 1) .default [] true r
  | r => .error (wrongKind "struct IconConfig" r)

def read (s : List Char) : Except Fault Settings := do
  let (settings, r) ← readPart s
  expectEnd r
  return settings

def parse (text : String) : Except String Settings :=
  (read text.toList).mapError fun f => f.message text.toList

end Iconsmith.Settings
