import Iconsmith.Bmp.Decoder
import Iconsmith.Png.Decoder

/-!
Reading ICO files: a directory of images of which the best one is read. An image is a PNG file or a
BMP file without its file header; behind the rows of the latter a mask may follow that makes pixels
clear.
-/

namespace Iconsmith.Ico

open Codec

def malformed (detail : String) : Fault := .malformed .ico detail

/-- An entry of the directory. A side of zero stands for 256. -/
structure Entry where
  width : Nat
  height : Nat
  depth : Nat
  length : Nat
  offset : Nat

namespace Entry

def readSide : Reading Nat := do
  let n ← Reading.byte
  return if n = 0 then 256 else n

def read : Reading Entry := do
  let width ← readSide
  let height ← readSide
  let _ ← Reading.le16
  if 256 < (← Reading.le16) then
    throw (malformed "ICO image entry has too many color planes or too large hotspot value")
  let depth ← Reading.le16
  if 256 < depth then
    throw (malformed "ICO image entry has too many bits per pixel or too large hotspot value")
  let length ← Reading.le32
  let offset ← Reading.le32
  return ⟨width, height, depth, length, offset⟩

/-- An entry is better than another by its number of bits, then by its area. -/
def isBetter (e f : Entry) : Bool :=
  f.depth < e.depth || (e.depth == f.depth && f.width * f.height < e.width * e.height)

/-- The sides of an image are those of its entry; longer ones count as 256. -/
def check (e : Entry) (format : String) (size : Size) : Except Fault Unit :=
  if e.width = min size.width.toNat 256 ∧ e.height = min size.height.toNat 256 then .ok ()
  else
    let pair (w h : Nat) := "(" ++ Decimal.text w ++ ", " ++ Decimal.text h ++ ")"
    .error (malformed ("Entry" ++ pair e.width e.height ++ " and " ++ format ++
      pair size.width.toNat size.height.toNat ++ " dimensions do not match!"))

end Entry

def readEntries : Nat → Reading (List Entry)
  | 0 => pure []
  | count + 1 => do return (← Entry.read) :: (← readEntries count)

/-- The entry to be read: the last one, unless an earlier one is better than it and all in front of
that one. -/
def best? (entries : List Entry) : Option Entry :=
  entries.getLast?.map fun last =>
    entries.dropLast.foldl (fun best e => if e.isBetter best then e else best) last

inductive Content where
  | png (file : ByteArray)
  | bmp (header : Bmp.Header)

def readBest : Reading (Entry × Content) := do
  let _ ← Reading.le32
  let entries ← readEntries (← Reading.le16)
  match best? entries with
  | none => throw (malformed "ICO directory contains no image")
  | some e =>
    Reading.goTo e.offset
    let mark ← Reading.take 8
    Reading.goTo e.offset
    if mark.toList ≠ Png.signature then return (e, .bmp (← Bmp.readHeader true 0))
    let b ← Reading.file
    return (e, .png (b.extract e.offset b.size))

/-- The sides of an image. One in a PNG file is not longer than its entry says. -/
def sizeOf (e : Entry) : Content → Except Fault Size
  | .bmp h => .ok h.size
  | .png file => do
    let h ← Png.Header.ofFile file
    if e.width < h.width.toNat ∨ e.height < h.height.toNat then throw .dimensions
    Png.dimensions file

def dimensions (b : ByteArray) : Except Fault Size := do
  let (e, c) ← readBest.result b 0
  sizeOf e c

/-- The pixels of an image in a PNG file, which must have four bytes each. -/
def pngPixels (e : Entry) (file : ByteArray) : Except Fault (Array Pixel) := do
  let size ← sizeOf e (.png file)
  if e.length < 8 then
    throw (malformed "Entry specified a length that is shorter than PNG header!")
  e.check "PNG" size
  let p ← Png.preamble file
  if p.channels ≠ 4 ∨ p.header.depth = 16 then throw (malformed "The PNG is not in RGBA format!")
  return (← Png.decode file).bitmap.pixels

def maskRowBytes (width : Nat) : Nat := (width + 31) / 32 * 4

/-- Pixels with those clear whose bit in the mask is set. The mask starts with the lowest row. -/
def applyMask (width height : Nat) (mask : ByteArray) (pixels : Array Pixel) : Array Pixel :=
  pixels.mapIdx fun i p =>
    let x := i % width
    let row := height - 1 - i / width
    let byte := Bytes.nat mask (row * maskRowBytes width + x / 8)
    if (byte >>> (7 - x % 8)) % 2 = 1 then { p with a := 0 } else p

/-- The pixels of an image without a file header. -/
def bmpPixels (e : Entry) (h : Bmp.Header) : Reading (Array Pixel) := do
  e.check "BMP" h.size
  checkMemory (4 * h.size.area)
  let pixels := h.fromTop (← h.readPixels)
  let here ← Reading.position
  let stop := e.offset + e.length
  let maskLength := maskRowBytes h.width * h.height
  if here + maskLength ≤ stop then
    return applyMask h.width h.height (← Reading.take maskLength) pixels
  else if stop = here then return pixels
  else throw (malformed "ICO image data size did not match expected size")

/-- The pixels of the image in a file, row by row from the top. -/
def pixels (b : ByteArray) : Except Fault (Array Pixel) := do
  match ← readBest.result b 0 with
  | (e, .png file) => pngPixels e file
  | (e, .bmp h) => (bmpPixels e h).result b 0

end Iconsmith.Ico
