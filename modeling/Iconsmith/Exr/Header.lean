import Iconsmith.Codec.Reader
import Iconsmith.Size

/-!
The header of OpenEXR files: a row of attributes, each with a name, a type, a length and a value.
-/

namespace Iconsmith.Exr

open Codec

def malformed (detail : String) : Fault := .malformed .openExr ("invalid: " ++ detail)

def missingBytes : Fault := malformed "reference to missing bytes"

def unsupported (detail : String) : Fault := .malformed .openExr ("not supported: " ++ detail)

/-- A reading in which the end of the file is a fault of the format. -/
def whole {α : Type} (r : Except Fault α) : Except Fault α :=
  match r with
  | .error (.input _) => .error missingBytes
  | r => r

inductive SampleType where
  | natural
  | half
  | single
deriving DecidableEq, Repr

def SampleType.bytes : SampleType → Nat
  | natural | single => 4
  | half => 2

structure Channel where
  name : String
  kind : SampleType
deriving DecidableEq, Repr

structure Window where
  left : Int
  top : Int
  width : Nat
  height : Nat
deriving DecidableEq, Repr

structure Header where
  channels : List Channel
  compression : Nat
  data : Window
  display : Window
  /-- The sides of a tile, if the image is stored in tiles. -/
  tile : Option (Nat × Nat)
  tableAt : Nat

/-- An attribute: its name and where its value stands. -/
structure Attribute where
  name : String
  start : Nat
  length : Nat

def readText : Nat → List Char → Reading String
  | 0, _ => throw .shortRead
  | steps + 1, acc => do
    let c ← Reading.byte
    if c = 0 then return String.ofList acc.reverse else readText steps (Char.ofNat c :: acc)

def readAttributes : Nat → Reading (List Attribute)
  | 0 => throw .shortRead
  | steps + 1 => do
    let most := (← Reading.left) + 1
    let name ← readText most []
    if name.isEmpty then return []
    let _ ← readText most []
    let length ← Reading.le32
    let start ← Reading.advance length
    return ⟨name, start, length⟩ :: (← readAttributes steps)

def readChannels : Nat → Reading (List Channel)
  | 0 => throw .shortRead
  | steps + 1 => do
    let name ← readText ((← Reading.left) + 1) []
    if name.isEmpty then return []
    let kind ← match ← Reading.le32 with
      | 0 => pure SampleType.natural
      | 1 => pure SampleType.half
      | 2 => pure SampleType.single
      | _ => throw (malformed "enum value")
    Reading.skipWords 3
    return ⟨name, kind⟩ :: (← readChannels steps)

/-- Read a rectangle, which is stored with its last column and row. -/
def readWindow : Reading Window := do
  let left := Bytes.signed32 (← Reading.le32)
  let top := Bytes.signed32 (← Reading.le32)
  let right := Bytes.signed32 (← Reading.le32)
  let bottom := Bytes.signed32 (← Reading.le32)
  if right < left ∨ bottom < top then throw (malformed "window attribute dimension value")
  return ⟨left, top, (right - left + 1).toNat, (bottom - top + 1).toNat⟩

def readValue {α : Type} (all : List Attribute) (name : String) (r : Reading α) : Reading α := do
  match all.find? fun a => a.name == name with
  | none => throw (malformed ("missing `" ++ name ++ "` attribute"))
  | some a =>
    Reading.goTo a.start
    r

def readHeader : Reading Header := do
  if (← Reading.take 4).toList ≠ [0x76, 0x2F, 0x31, 0x01] then
    throw (malformed "file identifier missing")
  let version ← Reading.le32
  if version / 2048 % 4 ≠ 0 then throw (unsupported "multiple layers or deep data")
  let all ← readAttributes ((← Reading.left) + 1)
  let tableAt ← Reading.position
  let channels ← readValue all "channels" do readChannels ((← Reading.left) + 1)
  let compression ← readValue all "compression" Reading.byte
  let data ← readValue all "dataWindow" readWindow
  let display ← readValue all "displayWindow" readWindow
  let tile ←
    if version / 512 % 2 = 1 then readValue all "tiles" do
      let width ← Reading.le32
      let height ← Reading.le32
      if 2 < (← Reading.byte) % 16 then throw (malformed "tile description level mode")
      pure (some (width, height))
    else pure none
  if ¬ ["R", "G", "B"].all fun name => channels.any fun c => c.name == name then
    throw (.malformed .openExr "image does not contain non-deep rgb channels")
  return ⟨channels, compression, data, display, tile, tableAt⟩

/-- The sides of the image: those of its display window. -/
def Header.size (h : Header) : Size := ⟨h.display.width.toUInt32, h.display.height.toUInt32⟩

def dimensions (b : ByteArray) : Except Fault Size :=
  whole ((readHeader.result b 0).map Header.size)

end Iconsmith.Exr
