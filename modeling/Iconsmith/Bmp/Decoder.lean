import Iconsmith.Bmp.Header

/-!
Reading BMP files. Rows start at multiples of four bytes, the lowest row first unless the header
says otherwise. Rows may also be stored as runs: pairs of a length and an index, and escapes for
literal indices, for the ends of a row and of the image, and for moving on; pixels that are passed
over are black.
-/

namespace Iconsmith.Bmp

open Codec

/-- A partly filled image, in the order of the rows in the file: all pixels, the current row, and
the number of its pixels that are done. -/
structure Filling where
  width : Nat
  height : Nat
  pixels : Array Pixel
  row : Nat
  column : Nat

namespace Filling

def start (width height : Nat) : Filling :=
  ⟨width, height, Array.replicate (width * height) (Pixel.gray 0), 0, 0⟩

/-- Put pixels into the current row, which must have room for them. -/
def put : List Pixel → Filling → Option Filling
  | [], f => some f
  | p :: ps, f =>
    if f.column < f.width then
      put ps { f with
        pixels := f.pixels.setIfInBounds (f.row * f.width + f.column) p
        column := f.column + 1 }
    else none

/-- Move on by columns and rows. The place must be in the image. -/
def move (dx dy : Nat) (f : Filling) : Option Filling :=
  if f.row + dy < f.height ∧ f.column + dx ≤ f.width then
    some { f with row := f.row + dy, column := f.column + dx }
  else none

def nextRow (f : Filling) : Filling := { f with row := f.row + 1, column := 0 }

end Filling

/-- The `count` indices that start in a row of bytes, for indices of the given number of bits. -/
def indices (bits count : Nat) (bytes : List UInt8) : List Nat :=
  let all := if bits = 4 then bytes.flatMap fun b => [b.toNat / 16, b.toNat % 16]
    else bytes.map UInt8.toNat
  all.take count

def corruptRuns : Fault := malformed "Corrupt RLE data"

/-- Go on filling; a place that does not exist is a fault of the file. -/
def inside (f : Option Filling) : Reading Filling :=
  match f with
  | some f => pure f
  | none => throw corruptRuns

/-- Follow the runs until the image is full or they end. Each takes two bytes at least, so that
`steps` is bounded by the length of the file. -/
def readRuns (bits : Nat) (colour : Nat → Pixel) : Nat → Filling → Reading (Array Pixel)
  | 0, _ => throw .shortRead
  | steps + 1, f => do
    if f.height ≤ f.row then return f.pixels
    let control ← Reading.byte
    let op ← Reading.byte
    if control ≠ 0 then
      let run := if bits = 4 then indices 4 control (List.replicate 128 op.toUInt8)
        else List.replicate control op
      readRuns bits colour steps (← inside (f.put (run.map colour)))
    else if op = 0 then readRuns bits colour steps f.nextRow
    else if op = 1 then return f.pixels
    else if op = 2 then
      let dx ← Reading.byte
      let dy ← Reading.byte
      readRuns bits colour steps (← inside (f.move dx dy))
    else
      let length := if bits = 4 then (op + 1) / 2 else op
      let bytes ← Reading.take (length + length % 2)
      readRuns bits colour steps
        (← inside (f.put ((indices bits op bytes.toList).map colour)))

def dimensions (b : ByteArray) : Except Fault Size :=
  (readFileHeader.result b 0).map Header.size

namespace Header

def width (h : Header) : Nat := h.size.width.toNat

def height (h : Header) : Nat := h.size.height.toNat

def colour (h : Header) (i : Nat) : Pixel := (h.palette[i]?).getD (Pixel.gray 0)

def rowBytes (h : Header) (bits : Nat) : Nat := (bits * h.width + 31) / 32 * 4

/-- The rows of an image of which each takes `bits` bits for a pixel. `pixelIn` finds a pixel in
the rows by the position at which its row starts and by its column. -/
def readRows (h : Header) (bits : Nat) (pixelIn : ByteArray → Nat → Nat → Pixel) :
    Reading (Array Pixel) := do
  Reading.goTo h.dataAt
  let bytes := h.rowBytes bits
  let rows ← Reading.take (h.height * bytes)
  return Array.ofFn (n := h.width * h.height) fun i =>
    pixelIn rows (i.val / h.width * bytes) (i.val % h.width)

/-- The index in column `x` of the row that starts at a position. -/
def indexIn (bits : Nat) (rows : ByteArray) (start x : Nat) : Nat :=
  Bytes.nat rows (start + x * bits / 8) >>> (8 - bits - x * bits % 8) % (1 <<< bits)

def readPixels (h : Header) : Reading (Array Pixel) :=
  match h.storage with
  | .indexed bits => h.readRows bits fun rows i x => h.colour (indexIn bits rows i x)
  | .words 16 fields => h.readRows 16 fun rows i x => fields.pixel (Bytes.le16 rows (i + 2 * x))
  | .words bits fields =>
    h.readRows bits fun rows i x => fields.pixel (Bytes.le32 rows (i + 4 * x))
  | .triples => h.readRows 24 fun rows i x =>
    ⟨Bytes.byte rows (i + 3 * x + 2), Bytes.byte rows (i + 3 * x + 1), Bytes.byte rows (i + 3 * x),
      255⟩
  | .runs bits => do
    Reading.goTo h.dataAt
    readRuns bits h.colour ((← Reading.file).size + 1) (.start h.width h.height)

def fromTop (h : Header) (pixels : Array Pixel) : Array Pixel :=
  if h.topDown then pixels
  else Array.ofFn (n := h.width * h.height) fun i =>
    (pixels[(h.height - 1 - i.val / h.width) * h.width + i.val % h.width]?).getD .clear

end Header

/-- The pixels of the image in a file, row by row from the top. -/
def pixels (b : ByteArray) : Except Fault (Array Pixel) := do
  let h ← readFileHeader.result b 0
  return h.fromTop (← h.readPixels.result b 0)

end Iconsmith.Bmp
