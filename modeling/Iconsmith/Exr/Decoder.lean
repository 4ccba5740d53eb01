import Iconsmith.Bitmap
import Iconsmith.Codec.Reader
import Iconsmith.Deflate.Inflate
import Iconsmith.Exr.Header

/-!
Reading OpenEXR files. An image is stored in blocks of rows or in tiles; a block holds for each of
its rows the samples of one channel after the other.
-/

namespace Iconsmith.Exr

open Codec

/-- A block of pixels, with its place in the data window. -/
structure Block where
  x : Nat
  y : Nat
  width : Nat
  height : Nat
  content : ByteArray

namespace Header

def pixelBytes (h : Header) : Nat := h.channels.foldl (fun n c => n + c.kind.bytes) 0

/-- Rows of a block that is not a tile. -/
def blockRows (h : Header) : Nat :=
  match h.compression with
  | 0 | 1 | 2 => 1
  | 3 | 5 => 16
  | 9 => 256
  | _ => 32

/-- The places of all blocks with their sides. -/
def places (h : Header) : List (Nat × Nat × Nat × Nat) :=
  let width := h.data.width
  let height := h.data.height
  let (w, t) := h.tile.getD (width, h.blockRows)
  let count (side step : Nat) := (side + step - 1) / step
  (List.range (count height t)).flatMap fun j => (List.range (count width w)).map fun i =>
    (i * w, j * t, min w (width - i * w), min t (height - j * t))

end Header

/-- Expand runs: a number below 128 repeats the next byte once more than it says, others are followed
by literal bytes. -/
def expandRuns (b : ByteArray) : Nat → Nat → ByteArray → ByteArray
  | 0, _, out => out
  | steps + 1, pos, out =>
    if b.size ≤ pos then out
    else
      let n := Bytes.nat b pos
      if 128 ≤ n then
        expandRuns b steps (pos + 1 + (256 - n)) (out ++ Bytes.slice b (pos + 1) (256 - n))
      else
        let run := List.replicate (n + 1) (Bytes.byte b (pos + 1))
        expandRuns b steps (pos + 2) (run.foldl ByteArray.push out)

/-- Add up differences, which are stored with 128 added. -/
def accumulate (b : ByteArray) : ByteArray :=
  (b.toList.foldl (fun (out, last) v =>
    match last with
    | none => (ByteArray.push out v, some v)
    | some (l : UInt8) =>
      let s := l + v - 128
      (out.push s, some s)) (ByteArray.empty, none)).1

/-- Put the bytes of the second half between those of the first. -/
def interleave (b : ByteArray) : ByteArray :=
  let half := (b.size + 1) / 2
  (List.range b.size).foldl (fun out i =>
    out.push (Bytes.byte b (if i % 2 = 0 then i / 2 else half + i / 2))) .empty

/-- The content of a block of the given length. One that is as long as that is not packed. -/
def unpack (compression : Nat) (packed : ByteArray) (length : Nat) : Except Fault ByteArray :=
  if packed.size = length then .ok packed
  else
    let wrongSize := malformed "uncompressed data size"
    let restore (b : ByteArray) : Except Fault ByteArray :=
      if b.size = length then .ok (interleave (accumulate b)) else .error wrongSize
    match compression with
    | 0 => .error wrongSize
    | 1 => restore (expandRuns packed packed.size 0 .empty)
    | 2 | 3 =>
      match Deflate.inflate packed with
      | .ok b => restore b
      | .error _ => .error (malformed "zlib-compressed data malformed")
    | _ => .error (unsupported "compression method")

def readBlock (h : Header) : Reading Block := do
  let (x, y, width, height) ←
    match h.tile with
    | some (w, t) => do
      let i ← Reading.le32
      let j ← Reading.le32
      Reading.skipWords 2
      pure (i * w, j * t, min w (h.data.width - i * w), min t (h.data.height - j * t))
    | none => do
      let top := (Bytes.signed32 (← Reading.le32) - h.data.top).toNat
      pure (0, top, h.data.width, min h.blockRows (h.data.height - top))
  let packed ← Reading.take (← Reading.le32)
  let content ← unpack h.compression packed (width * height * h.pixelBytes)
  return ⟨x, y, width, height, content⟩

def readBlocks (h : Header) : List Nat → Reading (List Block)
  | [] => pure []
  | i :: rest => do
    Reading.goTo i
    return (← readBlock h) :: (← readBlocks h rest)

def readTable : Nat → Reading (List Nat)
  | 0 => pure []
  | count + 1 => do
    let low ← Reading.le32
    let high ← Reading.le32
    return (low + high <<< 32) :: (← readTable count)

/-- A number of 16 bits: a sign, five bits of exponent and ten of mantissa. -/
def halfToSingle (v : Nat) : Float32 :=
  let sign := (v / 32768) <<< 31
  let e := v / 1024 % 32
  let m := v % 1024
  if e = 0 then
    let x := m.toFloat32 * Float32.ofBits 0x33800000
    if sign = 0 then x else -x
  else if e = 31 then Float32.ofBits (sign + 0x7F800000 + m * 8192).toUInt32
  else Float32.ofBits (sign + (e + 112) <<< 23 + m * 8192).toUInt32

def SampleType.value (t : SampleType) (b : ByteArray) (i : Nat) : Float32 :=
  match t with
  | natural => (Bytes.le32 b i).toFloat32
  | half => halfToSingle (Bytes.le16 b i)
  | single => Float32.ofBits (Bytes.le32 b i).toUInt32

/-- Where the samples of a channel start in a row, counted in bytes for each column, and their
type. -/
def channelAt? (channels : List Channel) (name : String) : Option (Nat × SampleType) :=
  match channels with
  | [] => none
  | c :: rest =>
    if c.name = name then some (0, c.kind)
    else (channelAt? rest name).map fun (i, t) => (c.kind.bytes + i, t)

def Block.pixel (k : Block) (h : Header) (x y : Nat) : Pixel :=
  let row := y * k.width * h.pixelBytes
  let part (name : String) (otherwise : UInt8) : UInt8 :=
    match channelAt? h.channels name with
    | some (i, t) => byteOfUnit (t.value k.content (row + i * k.width + x * t.bytes))
    | none => otherwise
  ⟨part "R" 0, part "G" 0, part "B" 0, part "A" 255⟩

/-- Put a block on the display window. -/
def paint (h : Header) (image : Array Pixel) (k : Block) : Array Pixel :=
  let dx := h.data.left - h.display.left
  let dy := h.data.top - h.display.top
  (List.range k.height).foldl (fun image j => (List.range k.width).foldl (fun image i =>
    let x := (k.x + i : Nat) + dx
    let y := (k.y + j : Nat) + dy
    if 0 ≤ x ∧ x < h.display.width ∧ 0 ≤ y ∧ y < h.display.height then
      image.setIfInBounds (y.toNat * h.display.width + x.toNat) (k.pixel h i j)
    else image) image) image

def readPixels : Reading (Array Pixel) := do
  let h ← readHeader
  let hasAlpha := h.channels.any fun c => c.name == "A"
  checkMemory (h.size.area * if hasAlpha then 16 else 12)
  Reading.goTo h.tableAt
  let table ← readTable h.places.length
  let blocks ← readBlocks h table
  let background : Pixel := if hasAlpha then .clear else .gray 0
  return blocks.foldl (paint h) (Array.replicate h.size.area background)

/-- The pixels of the image in a file, row by row from the top. -/
def pixels (b : ByteArray) : Except Fault (Array Pixel) :=
  match readPixels.result b 0 with
  | .error f => if f = .shortRead then .error missingBytes else .error f
  | r => r

end Iconsmith.Exr
