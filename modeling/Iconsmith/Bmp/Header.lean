import Iconsmith.Codec.Reader
import Iconsmith.Decimal
import Iconsmith.Size

/-!
The headers of BMP files: the sides of the image, how its rows are stored, and its palette. A
header comes behind a file header or, inside of an icon, alone.
-/

namespace Iconsmith.Bmp

open Codec

/-- A run of bits in a word: where it starts and how long it is, at most eight bits. -/
structure Field where
  shift : Nat
  length : Nat
deriving DecidableEq, Repr

namespace Field

/-- Number of zero bits below the lowest set bit. At most `fuel` are counted. -/
def trailingZeros : Nat → Nat → Nat
  | 0, _ => 0
  | fuel + 1, m => if m % 2 = 1 then 0 else 1 + trailingZeros fuel (m / 2)

/-- Number of set bits from the lowest bit up to the first that is not set. -/
def trailingOnes : Nat → Nat → Nat
  | 0, _ => 0
  | fuel + 1, m => if m % 2 = 0 then 0 else 1 + trailingOnes fuel (m / 2)

/-- The field of a mask in words of `width` bits. Of a longer run only the eight highest bits
count. An empty mask is a field without bits. -/
def ofMask (mask width : Nat) : Except Fault Field :=
  if mask = 0 then .ok ⟨0, 0⟩
  else
    let shift := trailingZeros 32 mask
    let length := trailingOnes 32 (mask >>> shift)
    if mask >>> (shift + length) ≠ 0 then .error (.malformed .bmp "Non-contiguous bitfield mask")
    else if width < shift + length then .error (.malformed .bmp "Invalid bitfield mask")
    else if 8 < length then .ok ⟨shift + (length - 8), 8⟩
    else .ok ⟨shift, length⟩

def sample (f : Field) (word : Nat) : UInt8 :=
  byteOfRange ((word >>> f.shift) % (1 <<< f.length)) ((1 <<< f.length) - 1)

end Field

/-- The fields of a word: red, green, blue and perhaps alpha. -/
structure Fields where
  red : Field
  green : Field
  blue : Field
  alpha : Field
deriving DecidableEq, Repr

/-- The pixel in a word. Without a field for it alpha is full. -/
def Fields.pixel (f : Fields) (word : Nat) : Pixel :=
  ⟨f.red.sample word, f.green.sample word, f.blue.sample word,
    if f.alpha.length = 0 then 255 else f.alpha.sample word⟩

inductive Storage where
  /-- Indices of 1, 2, 4 or 8 bits. -/
  | indexed (bits : Nat)
  /-- Words of 16 or 32 bits. -/
  | words (bits : Nat) (fields : Fields)
  /-- Three bytes for a pixel. -/
  | triples
  /-- Runs of equal indices of 4 or 8 bits. -/
  | runs (bits : Nat)
deriving DecidableEq, Repr

structure Header where
  size : Size
  topDown : Bool
  storage : Storage
  /-- 256 colours, if the rows hold indices. -/
  palette : Array Pixel
  dataAt : Nat

def malformed (detail : String) : Fault := .malformed .bmp detail

def badBits (kind : String) (bits : Nat) : Fault :=
  malformed ("Invalid channel bit count for " ++ kind ++ ": " ++ Decimal.text bits)

/-- Sides that are not positive are refused; `channels` only appears in the message. -/
def checkSides (width height : Int) (channels : Nat) : Except Fault Unit :=
  if width ≤ 0 ∨ height ≤ 0 then
    .error (.feature .bmp ("Image dimensions (" ++ Decimal.signed width ++ "x" ++
      Decimal.signed height ++ " w/" ++ Decimal.text channels ++ " channels) are too large"))
  else .ok ()

def maxSide : Int := 0xFFFF

/-- The storage of words of five bits for each colour. -/
def fiveBits : Storage := .words 16 ⟨⟨10, 5⟩, ⟨5, 5⟩, ⟨0, 5⟩, ⟨0, 0⟩⟩

/-- The storage of words of four bytes, with or without alpha. -/
def fourBytes (alpha : Bool) : Storage :=
  .words 32 ⟨⟨16, 8⟩, ⟨8, 8⟩, ⟨0, 8⟩, if alpha then ⟨24, 8⟩ else ⟨0, 0⟩⟩

/-- The first part of a header: sides, direction, bits of a pixel, compression and number of
colours. -/
structure Layout where
  width : Nat
  height : Nat
  topDown : Bool
  bits : Nat
  compression : Nat
  colours : Nat

/-- Exactly one plane is allowed. -/
def readPlanes : Reading Unit := do
  if (← Reading.le16) ≠ 1 then throw (malformed "More than one plane")

def readCore (channels : Nat) : Reading Layout := do
  let width ← Reading.le16
  let height ← Reading.le16
  checkSides width height channels
  readPlanes
  let bits ← Reading.le16
  if bits ∉ [1, 4, 8, 24] then throw (badBits "RGB" bits)
  return ⟨width, height, false, bits, 0, 0⟩

def unsupported (compression : Nat) : Option String :=
  if compression = 4 then some "JPEG compression"
  else if compression = 5 then some "PNG compression"
  else if 11 ≤ compression ∧ compression ≤ 13 then some "CMYK format"
  else none

/-- The number of bits of a pixel must fit the compression. -/
def checkBits (compression bits : Nat) : Except Fault Unit :=
  match compression with
  | 0 => if bits ∈ [1, 2, 4, 8, 16, 24, 32] then .ok () else .error (badBits "RGB" bits)
  | 1 => if bits = 8 then .ok () else .error (badBits "RLE8" bits)
  | 2 => if bits = 4 then .ok () else .error (badBits "RLE4" bits)
  | 3 => if bits = 16 ∨ bits = 32 then .ok () else .error (badBits "bitfields" bits)
  | c =>
    match unsupported c with
    | some what => .error (.feature .bmp what)
    | none => .error (malformed ("Unknown image compression type " ++ Decimal.text c))

/-- The newer headers. A negative height says that the upper row comes first. -/
def readInfo (channels : Nat) : Reading Layout := do
  let width := Bytes.signed32 (← Reading.le32)
  let height := Bytes.signed32 (← Reading.le32)
  if width < 0 then throw (malformed ("Negative width (" ++ Decimal.signed width ++ ")"))
  if maxSide < width ∨ maxSide < height then
    throw (malformed ("Image too large (one of (" ++ Decimal.signed width ++ ", " ++
      Decimal.signed height ++ ") > soft limit of 65535)"))
  if height = -2147483648 then throw (malformed "Invalid height")
  let topDown : Bool := height < 0
  checkSides width height.natAbs channels
  readPlanes
  let bits ← Reading.le16
  let compression ← Reading.le32
  if topDown ∧ compression ≠ 0 ∧ compression ≠ 3 then
    throw (malformed ("Invalid image type " ++ Decimal.text compression ++ " for top-down image."))
  checkBits compression bits
  Reading.skipWords 3
  let colours ← Reading.le32
  Reading.skipWords 1
  return ⟨width.natAbs, height.natAbs, topDown, bits, compression, colours⟩

def readFields (bits length : Nat) : Reading Fields := do
  let red ← Reading.le32
  let green ← Reading.le32
  let blue ← Reading.le32
  let alpha ← if 56 ≤ length then Reading.le32 else pure 0
  let fields : Fields :=
    ⟨← Field.ofMask red bits, ← Field.ofMask green bits, ← Field.ofMask blue bits,
      ← Field.ofMask alpha bits⟩
  if fields.red.length = 0 ∨ fields.green.length = 0 ∨ fields.blue.length = 0 then
    throw (malformed ("Missing " ++ Decimal.text bits ++ "-bit bitfield mask"))
  return fields

/-- The palette. Its colours are blue, green and red, in the newer headers with a byte that does
not count; those that are missing are black. -/
def readPalette (bits colours bytesPerColour : Nat) : Reading (Array Pixel) := do
  if 1 <<< bits < colours then
    throw (malformed ("Palette size " ++ Decimal.text colours ++
      " exceeds maximum size for BMP with bit count of " ++ Decimal.text bits))
  let count := if colours = 0 then 1 <<< bits else colours
  let entries ← Reading.take (min count 256 * bytesPerColour)
  return Array.ofFn (n := 256) fun i =>
    let at0 := bytesPerColour * i.val
    ⟨Bytes.byte entries (at0 + 2), Bytes.byte entries (at0 + 1), Bytes.byte entries at0, 255⟩

def headerLengths : List Nat := [12, 40, 52, 56, 108, 124]

/-- The header behind the file header. Inside of an icon pixels of four bytes have alpha, the rows
follow at once, and the height counts the rows of a mask too. -/
def readHeader (inIcon : Bool) (dataAt : Nat) : Reading Header := do
  let start ← Reading.position
  let length ← Reading.le32
  if length ∉ headerLengths then
    if length < 12 then
      throw (malformed ("Bitmap header too small (" ++ Decimal.text length ++ " bytes)"))
    throw (.feature .bmp ("Unknown bitmap header type (size=" ++ Decimal.text length ++ ")"))
  let channels := if inIcon then 4 else 3
  let l ← if length = 12 then readCore channels else readInfo channels
  let storage ←
    if l.compression = 3 then do pure (Storage.words l.bits (← readFields l.bits length))
    else if l.compression = 1 ∨ l.compression = 2 then pure (Storage.runs l.bits)
    else if l.bits = 16 then pure fiveBits
    else if l.bits = 24 then pure Storage.triples
    else if l.bits = 32 then pure (fourBytes inIcon)
    else pure (Storage.indexed l.bits)
  Reading.goTo (start + length + if l.compression = 3 ∧ length = 40 then 12 else 0)
  let palette ← match storage with
    | .indexed bits | .runs bits => readPalette bits l.colours (if length = 12 then 3 else 4)
    | _ => pure #[]
  let here ← Reading.position
  let height := if inIcon then l.height / 2 else l.height
  return ⟨⟨l.width.toUInt32, height.toUInt32⟩, l.topDown, storage, palette,
    if inIcon then here else dataAt⟩

def readFileHeader : Reading Header := do
  if (← Reading.take 2).toList ≠ Bytes.ascii "BM" then
    throw (malformed "BMP signature not found")
  Reading.skipWords 2
  let dataAt ← Reading.le32
  readHeader false dataAt

end Iconsmith.Bmp
