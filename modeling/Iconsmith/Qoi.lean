import Iconsmith.Bitmap
import Iconsmith.Codec.Reader
import Iconsmith.Decimal
import Iconsmith.Size

/-!
Reading QOI files: a header, then one operation after the other, each of which adds pixels that
depend on the pixel before them or on pixels seen earlier, then a mark for the end.
-/

namespace Iconsmith.Qoi

open Codec

def malformed (detail : String) : Fault := .malformed .qoi detail

structure Header where
  size : Size
  hasAlpha : Bool

namespace Header

def stop : Nat := 14

def mark : Nat := 0x716F6966

def maxPixels : Nat := 400000000

def read (b : ByteArray) : Except Fault Header := do
  if b.size < stop then throw (malformed "i/o error: failed to fill whole buffer")
  let channels := Bytes.nat b 12
  let space := Bytes.nat b 13
  if channels ≠ 3 ∧ channels ≠ 4 then
    throw (malformed ("invalid number of channels: " ++ Decimal.text channels))
  if 1 < space then
    throw (malformed ("invalid color space: " ++ Decimal.text space ++ " (expected 0 or 1)"))
  if Bytes.be32 b 0 ≠ mark then
    let found := (List.range 4).map fun i => Decimal.text (Bytes.nat b i)
    throw (malformed ("invalid magic: expected " ++ Decimal.text mark ++ ", got [" ++
      ", ".intercalate found ++ "]"))
  let size : Size := ⟨(Bytes.be32 b 4).toUInt32, (Bytes.be32 b 8).toUInt32⟩
  if size.area = 0 ∨ maxPixels < size.area then
    throw (malformed ("invalid image dimensions: " ++ size.text))
  return ⟨size, channels = 4⟩

end Header

/-- What an operation depends on: the pixel before, and for each slot the last pixel that fell into
it. -/
structure Memory where
  pixel : Pixel
  seen : Array Pixel

namespace Memory

/-- The memory before the first operation. Without an alpha channel every pixel is opaque. -/
def start (hasAlpha : Bool) : Memory :=
  ⟨.gray 0, Array.replicate 64 (if hasAlpha then .clear else .gray 0)⟩

def slot (p : Pixel) : Nat :=
  (p.r.toNat * 3 + p.g.toNat * 5 + p.b.toNat * 7 + p.a.toNat * 11) % 64

def remember (m : Memory) (p : Pixel) : Memory := ⟨p, m.seen.setIfInBounds (slot p) p⟩

end Memory

/-- Pixel `p` with differences added to its colours, modulo 256. -/
def shift (p : Pixel) (dr dg db : Nat) : Pixel :=
  ⟨p.r + dr.toUInt8, p.g + dg.toUInt8, p.b + db.toUInt8, p.a⟩

/-- The pixel of an operation that is neither a slot nor a run, given its first byte. -/
def readPixel (hasAlpha : Bool) (p : Pixel) (op : Nat) : Reading Pixel := do
  if op = 0xFE then
    let r ← Reading.byte
    let g ← Reading.byte
    let b ← Reading.byte
    return ⟨r.toUInt8, g.toUInt8, b.toUInt8, p.a⟩
  else if op = 0xFF then
    if hasAlpha then
      let r ← Reading.byte
      let g ← Reading.byte
      let b ← Reading.byte
      let a ← Reading.byte
      return ⟨r.toUInt8, g.toUInt8, b.toUInt8, a.toUInt8⟩
    else return p
  else if op / 64 = 1 then
    return shift p (op / 16 % 4 + 254) (op / 4 % 4 + 254) (op % 4 + 254)
  else
    let more ← Reading.byte
    let dg := op % 64 + 224
    return shift p (dg + more / 16 + 248) dg (dg + more % 16 + 248)

/-- Follow operations until `total` pixels are there. Each adds one at least. -/
def readOps (hasAlpha : Bool) (total : Nat) : Nat → Memory → Array Pixel → Reading (Array Pixel)
  | 0, _, out => pure out
  | steps + 1, m, out => do
    if total ≤ out.size then return out
    let op ← Reading.byte
    if op < 64 then
      let p := (m.seen[op]?).getD .clear
      readOps hasAlpha total steps { m with pixel := p } (out.push p)
    else if 0xC0 ≤ op ∧ op < 0xFE then
      let count := min (op % 64 + 1) (total - out.size)
      readOps hasAlpha total steps m (out ++ Array.replicate count m.pixel)
    else
      let p ← readPixel hasAlpha m.pixel op
      readOps hasAlpha total steps (m.remember p) (out.push p)

/-- All pixels and the mark behind them. -/
def readPixels (h : Header) : Reading (Array Pixel) := do
  let out ← readOps h.hasAlpha h.size.area h.size.area (.start h.hasAlpha) #[]
  let mark ← Reading.take 8
  if mark.toList ≠ [0, 0, 0, 0, 0, 0, 0, 1] then
    throw (malformed "invalid padding (stream end marker)")
  return out

def dimensions (b : ByteArray) : Except Fault Size := (Header.read b).map Header.size

/-- The pixels of the image in a file, row by row from the top. -/
def pixels (b : ByteArray) : Except Fault (Array Pixel) := do
  let h ← Header.read b
  checkMemory (h.size.area * if h.hasAlpha then 4 else 3)
  match (readPixels h).result b Header.stop with
  | .error (.input reason) => throw (malformed ("i/o error: " ++ reason))
  | .error f => throw f
  | .ok out => return out

end Iconsmith.Qoi
