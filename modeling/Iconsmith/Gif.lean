import Iconsmith.Bitmap
import Iconsmith.Codec.Reader
import Iconsmith.Lzw
import Iconsmith.Size

/-!
Reading the first frame of a GIF file. The file is a header and a row of blocks; the frame is put on
the screen of the header, and what it leaves free is clear.
-/

namespace Iconsmith.Gif

open Codec

def malformed (detail : String) : Fault := .malformed .gif detail

def ended : Fault := malformed "Unexpected End of File"

/-- A reading in which the end of the file is a fault of its own. -/
def whole {α : Type} (r : Except Fault α) : Except Fault α :=
  match r with
  | .error (.input _) => .error ended
  | r => r

structure Header where
  size : Size
  palette : ByteArray

/-- The palette that flags announce: three bytes for each of a power of two colours. -/
def readPalette (flags : Nat) : Reading ByteArray :=
  if flags < 128 then pure .empty else Reading.take (3 <<< (flags % 8 + 1))

def readHeader : Reading Header := do
  let mark ← Reading.take 6
  if mark.toList ≠ Bytes.ascii "GIF87a" ∧ mark.toList ≠ Bytes.ascii "GIF89a" then
    throw (malformed "malformed GIF header")
  let width ← Reading.le16
  let height ← Reading.le16
  let flags ← Reading.byte
  let _ ← Reading.le16
  return ⟨⟨width.toUInt32, height.toUInt32⟩, ← readPalette flags⟩

structure Frame where
  left : Nat
  top : Nat
  width : Nat
  height : Nat
  interlaced : Bool
  palette : ByteArray
  transparent : Option Nat
  bits : Nat

inductive Block where
  | image
  | extension
  | trailer
deriving DecidableEq, Repr

/-- The kind of the next block. A block of a kind is only seen once something follows it. -/
def readBlock : Reading Block := do
  let kind ← Reading.byte
  if (← Reading.left) = 0 then throw ended
  if kind = 0x2C then return .image
  else if kind = 0x21 then return .extension
  else if kind = 0x3B then return .trailer
  else throw (malformed "unknown block type encountered")

/-- Pass over parts, each with its length in front, up to an empty one. -/
def skipParts : Nat → Reading Unit
  | 0 => throw ended
  | steps + 1 => do
    let n ← Reading.byte
    if n = 0 then return
    let _ ← Reading.advance n
    skipParts steps

/-- Read an extension and the clear index that it sets, if it does. -/
def readExtension (transparent : Option Nat) : Reading (Option Nat) := do
  let label ← Reading.byte
  let steps ← Reading.left
  if label ≠ 0xF9 then
    skipParts steps
    return transparent
  let length ← Reading.byte
  if length ≠ 4 then throw (malformed "control extension has wrong length")
  let flags ← Reading.byte
  let _ ← Reading.le16
  let index ← Reading.byte
  skipParts steps
  return if flags % 2 = 1 then some index else none

def readFrame (h : Header) (transparent : Option Nat) : Reading Frame := do
  let left ← Reading.le16
  let top ← Reading.le16
  let width ← Reading.le16
  let height ← Reading.le16
  let flags ← Reading.byte
  let palette ← readPalette flags
  let bits ← Reading.byte
  if bits = 0 ∨ 11 < bits then throw (malformed "invalid minimal code size")
  if (← Reading.left) = 0 then throw ended
  let palette := if palette.isEmpty then h.palette else palette
  if palette.isEmpty then throw (malformed "no color table available for current frame")
  return ⟨left, top, width, height, flags / 64 % 2 = 1, palette, transparent, bits⟩

def findFrame (h : Header) : Nat → Option Nat → Reading (Option Frame)
  | 0, _ => throw ended
  | steps + 1, transparent => do
    match ← readBlock with
    | .image => return some (← readFrame h transparent)
    | .extension => findFrame h steps (← readExtension transparent)
    | .trailer => return none

/-- The parts from a place on put together, and whether the empty part that ends them is there. -/
def gather (b : ByteArray) : Nat → Nat → ByteArray → ByteArray × Bool
  | 0, _, acc => (acc, false)
  | steps + 1, pos, acc =>
    if b.size ≤ pos then (acc, false)
    else
      let n := Bytes.nat b pos
      if n = 0 then (acc, true)
      else gather b steps (pos + 1 + n) (acc ++ Bytes.slice b (pos + 1) n)

/-- The rows of an interlaced frame in the order of the file: every eighth, the rows half way
between them, and so on. -/
def interlacedRows (height : Nat) : List Nat :=
  let rows (first step : Nat) := (List.range height).filter fun y => first ≤ y && y % step == first
  rows 0 8 ++ rows 4 8 ++ rows 2 4 ++ rows 1 2

def readIndices (f : Frame) : Reading ByteArray := do
  let count := f.width * f.height
  if count = 0 then
    if f.interlaced ∧ f.height = 0 then return .empty
    throw (malformed "odd-sized buffer")
  let b ← Reading.file
  let (packed, complete) := gather b b.size (← Reading.position) .empty
  match Lzw.expand ⟨f.bits, false, false⟩ packed count with
  | (out, .full) => return out
  | (_, .invalid) => throw (malformed "invalid code in LZW stream")
  | _ => throw (if complete then malformed "image truncated" else ended)

/-- The colour of an index. One beyond the palette is clear. -/
def Frame.colour (f : Frame) (i : Nat) : Pixel :=
  if 3 * i + 2 < f.palette.size then
    ⟨Bytes.byte f.palette (3 * i), Bytes.byte f.palette (3 * i + 1),
      Bytes.byte f.palette (3 * i + 2), if f.transparent = some i then 0 else 255⟩
  else .clear

/-- Where each row of a frame stands in the file. -/
def Frame.rowOrder (f : Frame) : Array Nat :=
  if f.interlaced then
    (interlacedRows f.height).zipIdx.foldl (fun order (y, i) => order.setIfInBounds y i)
      (Array.replicate f.height 0)
  else Array.range f.height

def Frame.pixels (f : Frame) (indices : ByteArray) : Array Pixel :=
  let order := f.rowOrder
  Array.ofFn (n := f.width * f.height) fun i =>
    let row := (order[i.val / f.width]?).getD 0
    f.colour (Bytes.nat indices (row * f.width + i.val % f.width))

/-- A screen with a frame on it. -/
def place (screen : Size) (f : Frame) (indices : ByteArray) : Array Pixel :=
  let pixels := f.pixels indices
  let width := screen.width.toNat
  Array.ofFn (n := screen.area) fun i =>
    let x := i.val % width
    let y := i.val / width
    if f.left ≤ x ∧ x < f.left + f.width ∧ f.top ≤ y ∧ y < f.top + f.height then
      (pixels[(y - f.top) * f.width + (x - f.left)]?).getD .clear
    else .clear

/-- Pass over the extensions of applications up to another block. -/
def skipApplications : Nat → Reading Unit
  | 0 => throw ended
  | steps + 1 => do
    if (← readBlock) = .extension then
      if (← Reading.byte) = 0xFF then
        skipParts (← Reading.left)
        skipApplications steps

/-- The header of a file, which only counts if it is followed by a block that does not belong to an
application. -/
def readScreen : Reading Header := do
  let h ← readHeader
  let start ← Reading.position
  skipApplications (← Reading.left)
  Reading.goTo start
  return h

def dimensions (b : ByteArray) : Except Fault Size := whole ((readScreen.result b 0).map Header.size)

def noFrame : Fault := .input "The end of the image has been reached"

/-- Read the first frame with its indices, and the sides of its screen. -/
def readFirst : Reading (Size × Frame × ByteArray) := do
  let h ← readScreen
  checkMemory (4 * h.size.area)
  match ← findFrame h (← Reading.left) none with
  | none => throw noFrame
  | some f => return (h.size, f, ← readIndices f)

/-- The first frame of a file with its indices, and the sides of its screen. -/
def first (b : ByteArray) : Except Fault (Size × Frame × ByteArray) :=
  match readFirst.result b 0 with
  | .error f => if f = .shortRead then .error ended else .error f
  | r => r

/-- The pixels of the image in a file, row by row from the top. -/
def pixels (b : ByteArray) : Except Fault (Array Pixel) := do
  let (screen, f, indices) ← first b
  return place screen f indices

/-- The first frame of a file without its screen, whose sides are given with it. -/
def frame (b : ByteArray) : Except Fault (Size × Bitmap) := do
  let (screen, f, indices) ← first b
  return (screen, .ofPixels f.width.toUInt32 f.height.toUInt32 (f.pixels indices))

end Iconsmith.Gif
