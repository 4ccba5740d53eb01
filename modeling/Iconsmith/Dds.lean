import Iconsmith.Bitmap
import Iconsmith.Codec.Reader
import Iconsmith.Decimal
import Iconsmith.Size

/-!
Reading DDS files whose pixels are packed in blocks of four by four: two colours, an index between
them for each pixel, and in two of three variants eight bytes of alpha.
-/

namespace Iconsmith.Dds

open Codec

def malformed (detail : String) : Fault := .malformed .dds detail

inductive Variant where
  /-- Not at all. -/
  | solid
  /-- Four bits for each pixel. -/
  | plain
  /-- Two values and an index between them for each pixel. -/
  | between
deriving DecidableEq, Repr

namespace Variant

def blockBytes : Variant → Nat
  | solid => 8
  | plain | between => 16

def channels : Variant → Nat
  | solid => 3
  | plain | between => 4

end Variant

structure Header where
  size : Size
  variant : Variant

def hexWord (n : Nat) : String :=
  let digits := (Nat.toDigits 16 n).map Char.toUpper
  "0x" ++ String.ofList (List.replicate (8 - digits.length) '0' ++ digits)

/-- The variant that the newer header names. -/
def readExtended : Reading Variant := do
  let format ← Reading.le32
  let dimension ← Reading.le32
  let flags ← Reading.le32
  let count ← Reading.le32
  let moreFlags ← Reading.le32
  if 132 < format then throw (malformed ("Invalid DDS DXGI format: " ++ Decimal.text format))
  if dimension < 2 ∨ 4 < dimension then
    throw (malformed ("Invalid DDS resource dimension: " ++ Decimal.text dimension))
  if flags ≠ 0 ∧ flags ≠ 4 then
    throw (malformed ("Invalid DDS DX10 header flags: " ++ hexWord flags))
  if dimension = 4 ∧ count ≠ 1 then
    throw (malformed ("Invalid DDS DX10 array size: " ++ Decimal.text count))
  if 4 < moreFlags then
    throw (malformed ("Invalid DDS DX10 header flags: " ++ hexWord moreFlags))
  if 70 ≤ format ∧ format ≤ 72 then return .solid
  if 73 ≤ format ∧ format ≤ 75 then return .plain
  if 76 ≤ format ∧ format ≤ 78 then return .between
  throw (.feature .dds ("DDS DXGI Format " ++ Decimal.text format))

def requiredFlags : Nat := 0x1007

def validFlags : Nat := 0x8A100F

def readHeader : Reading Header := do
  if (← Reading.take 4).toList ≠ Bytes.ascii "DDS " then throw (malformed "DDS signature not found")
  let length ← Reading.le32
  if length ≠ 124 then throw (malformed ("Invalid DDS header size: " ++ Decimal.text length))
  let flags ← Reading.le32
  if flags &&& requiredFlags ≠ requiredFlags ∨ flags ||| validFlags ≠ validFlags then
    throw (malformed ("Invalid DDS header flags: " ++ hexWord flags))
  let height ← Reading.le32
  let width ← Reading.le32
  Reading.skipWords 3
  Reading.skipWords 11
  let formatLength ← Reading.le32
  if formatLength ≠ 32 then
    throw (malformed ("Invalid DDS PixelFormat size: " ++ Decimal.text formatLength))
  let formatFlags ← Reading.le32
  let code ← Reading.take 4
  Reading.skipWords 5
  Reading.skipWords 5
  if formatFlags / 4 % 2 = 0 then throw (.input "The image format `DDS` is not supported")
  let variant ←
    if code.toList = Bytes.ascii "DXT1" then pure Variant.solid
    else if code.toList = Bytes.ascii "DXT3" then pure Variant.plain
    else if code.toList = Bytes.ascii "DXT5" then pure Variant.between
    else if code.toList = Bytes.ascii "DX10" then readExtended
    else throw (.feature .dds ("DDS FourCC [" ++
      ", ".intercalate (code.toList.map fun v => Decimal.text v.toNat) ++ "]"))
  let size : Size := ⟨width.toUInt32, height.toUInt32⟩
  if 1 <<< 64 ≤ size.area * variant.channels then
    throw (.feature .dds ("Image dimensions (" ++ size.text ++ ") are too large"))
  if width % 4 ≠ 0 ∨ height % 4 ≠ 0 then
    throw (.input "The Image's dimensions are either too small or too large")
  return ⟨size, variant⟩

def colourOf (word : Nat) : Nat × Nat × Nat :=
  (word / 2048 * 255 / 31, word / 32 % 64 * 255 / 63, word % 32 * 255 / 31)

/-- The colour of an index between two colours, of which `first` and `second` are the words. A block
without alpha whose first word is not the greater one has only one colour between them, and
black. -/
def colourAt (isSolid : Bool) (first second index : Nat) : Nat × Nat × Nat :=
  let (r0, g0, b0) := colourOf first
  let (r1, g1, b1) := colourOf second
  let three := second < first || !isSolid
  match index with
  | 0 => (r0, g0, b0)
  | 1 => (r1, g1, b1)
  | 2 =>
    if three then ((2 * r0 + r1 + 1) / 3, (2 * g0 + g1 + 1) / 3, (2 * b0 + b1 + 1) / 3)
    else ((r0 + r1 + 1) / 2, (g0 + g1 + 1) / 2, (b0 + b1 + 1) / 2)
  | _ =>
    if three then ((r0 + 2 * r1 + 1) / 3, (g0 + 2 * g1 + 1) / 3, (b0 + 2 * b1 + 1) / 3)
    else (0, 0, 0)

/-- The alpha of an index between two values. -/
def alphaAt (first second index : Nat) : Nat :=
  if index = 0 then first
  else if index = 1 then second
  else if second < first then ((8 - index) * first + (index - 1) * second) / 7
  else if index < 6 then ((6 - index) * first + (index - 1) * second) / 5
  else if index = 6 then 0 else 255

/-- Pixel number `k` of the block at a position. -/
def pixelIn (v : Variant) (b : ByteArray) (i k : Nat) : Pixel :=
  let colours := if v = .solid then i else i + 8
  let index := Bytes.le32 b (colours + 4) >>> (2 * k) % 4
  let (red, green, blue) :=
    colourAt (v = .solid) (Bytes.le16 b colours) (Bytes.le16 b (colours + 2)) index
  let alpha := match v with
    | .solid => 255
    | .plain => Bytes.le64 b i >>> (4 * k) % 16 * 17
    | .between =>
      alphaAt (Bytes.nat b i) (Bytes.nat b (i + 1)) (Bytes.le64 b i >>> (16 + 3 * k) % 8)
  ⟨red.toUInt8, green.toUInt8, blue.toUInt8, alpha.toUInt8⟩

def dimensions (b : ByteArray) : Except Fault Size := (readHeader.result b 0).map Header.size

def readPixels : Reading (Array Pixel) := do
  let h ← readHeader
  checkMemory (h.size.area * h.variant.channels)
  let width := h.size.width.toNat
  let blocks ← Reading.take (h.size.area / 16 * h.variant.blockBytes)
  return Array.ofFn (n := h.size.area) fun i =>
    let x := i.val % width
    let y := i.val / width
    let block := y / 4 * (width / 4) + x / 4
    pixelIn h.variant blocks (block * h.variant.blockBytes) (y % 4 * 4 + x % 4)

/-- The pixels of the image in a file, row by row from the top. -/
def pixels (b : ByteArray) : Except Fault (Array Pixel) := readPixels.result b 0

end Iconsmith.Dds
