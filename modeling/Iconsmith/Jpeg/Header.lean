import Iconsmith.Codec.Reader
import Iconsmith.Decimal
import Iconsmith.Size
import Iconsmith.Text.Quoted

/-!
The marker segments of JPEG files: the frame, the tables, and the heads of the scans behind which
packed blocks start.
-/

namespace Iconsmith.Jpeg

open Codec

def malformed (detail : String) : Fault := .malformed .jpeg detail

def quoted (detail : String) : Fault := malformed (Text.quoted detail.toList)

def tooFew (wanted found : Nat) : Fault :=
  malformed ("I/O errors Not enough bytes, expected " ++ Decimal.text wanted ++ " but found " ++
    Decimal.text found ++ "\n")

/-- A component of the frame: its name, how many of its blocks a unit has in both directions, and its
quantization table. -/
structure Component where
  ident : Nat
  across : Nat
  down : Nat
  table : Nat
deriving Inhabited, DecidableEq, Repr

structure Frame where
  size : Size
  components : List Component
  progressive : Bool

/-- A prefix code: for each word length from one bit on its symbols in the order of their words. -/
abbrev Code := List (List Nat)

/-- A component in a scan, by its number in the frame, and the codes for its first and its other
coefficients. -/
structure ScanPart where
  component : Nat
  first : Nat
  others : Nat

/-- A scan. It holds the coefficients `low` to `high` of its components, without their last `shift`
bits; one that refines adds the bit before those to coefficients of earlier scans. -/
structure Scan where
  parts : List ScanPart
  low : Nat
  high : Nat
  refines : Bool
  shift : Nat
  /-- Position of the packed blocks. -/
  dataAt : Nat

inductive ColorModel where
  | luma
  /-- Brightness and two colour differences. -/
  | ycc
  | rgb
  /-- Cyan, magenta, yellow and black. -/
  | cmyk
  /-- Cyan, magenta and yellow as brightness and two colour differences, and black. -/
  | ycck
deriving DecidableEq, Repr

def ColorModel.components : ColorModel → Nat
  | luma => 1
  | ycc => 3
  | rgb => 3
  | cmyk => 4
  | ycck => 4

/-- What the segments so far have said. Tables are kept by number, the latest first. -/
structure Header where
  frame : Option Frame
  quantization : List (Nat × List Nat)
  firstCodes : List (Nat × Code)
  otherCodes : List (Nat × Code)
  /-- Number of units between restarts; zero for none. -/
  restart : Nat
  model : ColorModel
  scan : Scan

namespace Header

def empty : Header := ⟨none, [], [], [], 0, .ycc, ⟨[], 0, 63, false, 0, 0⟩⟩

def size (h : Header) : Size :=
  match h.frame with
  | some f => f.size
  | none => ⟨0, 0⟩

end Header

/-- The next `n` bytes start where this says. -/
def advance (n : Nat) : Reading Nat := do
  let found ← Reading.left
  if found < n then throw (tooFew n found)
  Reading.advance n

def byte : Reading Nat := do return Bytes.nat (← Reading.file) (← advance 1)

def word : Reading Nat := do return Bytes.be16 (← Reading.file) (← advance 2)

def bytes (n : Nat) : Reading (List Nat) := do
  let start ← advance n
  return (Bytes.slice (← Reading.file) start n).toList.map UInt8.toNat

/-- The number of bytes of a segment behind its length. -/
def readLength (complaint : String) : Reading Nat := do
  let n ← word
  if n < 2 then throw (quoted complaint)
  return n - 2

def zigzag : List Nat := [
  0, 1, 8, 16, 9, 2, 3, 10, 17, 24, 32, 25, 18, 11, 4, 5, 12, 19, 26, 33, 40, 48, 41, 34, 27, 20,
  13, 6, 7, 14, 21, 28, 35, 42, 49, 56, 57, 50, 43, 36, 29, 22, 15, 23, 30, 37, 44, 51, 58, 59, 52,
  45, 38, 31, 39, 46, 53, 60, 61, 54, 47, 55, 62, 63]

/-- Pairs of numbers, the first of a pair being the more significant. -/
def pairs : List Nat → List Nat
  | a :: b :: rest => (a * 256 + b) :: pairs rest
  | _ => []

def readQuantization : Nat → Nat → Header → Reading Header
  | 0, _, h => pure h
  | steps + 1, left, h => do
    if left = 0 then return h
    let info ← byte
    let wide := info / 16
    if 1 < wide then
      throw (malformed ("Error parsing DQT segment. Reason:Expected QT precision value of either 0 or 1, found " ++
        Decimal.text wide))
    let number := info % 16
    let values ← if wide = 0 then bytes 64 else pairs <$> bytes 128
    if 3 < number then
      throw (malformed ("Error parsing DQT segment. Reason:Too large table position for QT :" ++
        Decimal.text number ++ ", expected between 0 and 3"))
    readQuantization steps (left - (1 + 64 * (wide + 1)))
      { h with quantization := (number, values) :: h.quantization }

/-- Split symbols into rows of the given lengths. -/
def splitRows : List Nat → List Nat → Code
  | [], _ => []
  | n :: rest, symbols => symbols.take n :: splitRows rest (symbols.drop n)

def readCodes : Nat → Nat → Header → Reading Header
  | 0, _, h => pure h
  | steps + 1, left, h => do
    if left ≤ 16 then
      if 0 < left then throw (quoted "Bogus Huffman table definition")
      return h
    let info ← byte
    let kind := info / 16
    let number := info % 16
    if 3 < number then
      throw (malformed ("Error decoding huffman values: Invalid DHT index " ++ Decimal.text number ++
        ", expected between 0 and 3"))
    if 1 < kind then
      throw (malformed ("Error decoding huffman values: Invalid DHT position " ++ Decimal.text kind ++
        ", should be 0 or 1"))
    let counts ← bytes 16
    let total := counts.foldl (· + ·) 0
    if 256 < total then
      throw (quoted "Encountered Huffman table with excessive length in DHT")
    if left - 17 < total then
      throw (malformed ("Error decoding huffman values: Excessive Huffman table of length " ++
        Decimal.text total ++ " found when header length is " ++ Decimal.text (left - 17)))
    let code := splitRows counts (← bytes total)
    readCodes steps (left - 17 - total)
      (if kind = 0 then { h with firstCodes := (number, code) :: h.firstCodes }
      else { h with otherCodes := (number, code) :: h.otherCodes })

def isPowerOfTwo (n : Nat) : Bool := n != 0 && n == 1 <<< n.log2

def readComponents : Nat → Nat → Reading (List Component)
  | 0, _ => pure []
  | count + 1, k => do
    let ident ← byte
    let sides ← byte
    let across := sides / 16
    let down := sides % 16
    let table ← byte
    if 3 < k then
      throw (quoted ("Unknown component id found," ++ Decimal.text k ++
        ", expected value between 1 and 4"))
    if 4 ≤ table then
      throw (quoted ("Too large quantization number :" ++ Decimal.text table ++
        ", expected value between 0 and 4"))
    if !isPowerOfTwo across then
      throw (quoted ("Horizontal sample is not a power of two(" ++ Decimal.text across ++
        ") cannot decode"))
    if !isPowerOfTwo down then
      throw (quoted ("Vertical sub-sample is not power of two(" ++ Decimal.text down ++
        ") cannot decode"))
    return ⟨ident, across, down, table⟩ :: (← readComponents count (k + 1))

def readFrame (progressive : Bool) : Reading Frame := do
  let length ← word
  let bits ← byte
  if bits ≠ 8 then
    throw (malformed ("Error parsing SOF segment. Reason:The library can only parse 8-bit images, the image has " ++
      Decimal.text bits ++ " bits of precision"))
  let height ← word
  let width ← word
  let count ← byte
  if count = 0 then throw (malformed "Error parsing SOF segment. Reason:Number of components cannot be zero.")
  if length ≠ 8 + 3 * count then
    throw (malformed ("Error parsing SOF segment. Reason:Length of start of frame differs from expected " ++
      Decimal.text (8 + 3 * count) ++ ",value is " ++ Decimal.text length))
  if width = 0 ∨ height = 0 then
    throw (malformed "Image width or height is set to zero, cannot continue")
  return ⟨⟨width.toUInt32, height.toUInt32⟩, ← readComponents count 0, progressive⟩

def badScan (detail : String) : Fault := malformed ("Error parsing SOS Segment. Reason:" ++ detail)

def readParts (idents : List Nat) : Nat → List Nat → Reading (List ScanPart)
  | 0, _ => pure []
  | count + 1, seen => do
    let ident ← byte
    if ident ∈ seen then
      throw (malformed ("Error parsing SOF segment. Reason:Duplicate ID " ++ Decimal.text ident ++
        " seen twice in the same component"))
    let codes ← byte
    let k := idents.idxOf ident
    if idents.length ≤ k then
      throw (malformed ("Error parsing SOF segment. Reason:Invalid component id " ++
        Decimal.text ident ++ ", expected a value between 0 and " ++ Decimal.text idents.length))
    return ⟨k, codes / 16, codes % 16⟩ :: (← readParts idents count (ident :: seen))

def readScan (h : Header) : Reading Header := do
  let length ← word
  let count ← byte
  let components := (h.frame.map Frame.components).getD []
  if length ≠ 6 + 2 * count then
    throw (badScan ("Bad SOS length " ++ Decimal.text length ++ ",corrupt jpeg"))
  if count = 0 ∨ 4 < count then
    throw (badScan ("Number of components in start of scan should be less than 3 but more than 0. Found " ++
      Decimal.text count))
  if components.isEmpty then
    throw (quoted "Error decoding SOF Marker, Number of components cannot be zero.")
  let parts ← readParts (components.map Component.ident) count []
  let low ← byte
  let high ← byte
  let bits ← byte
  let inRange (name : String) (n most : Nat) : Reading Unit := do
    if most < n then
      throw (badScan ("Invalid " ++ name ++ " parameter " ++ Decimal.text n ++
        ", range should be 0-" ++ Decimal.text most))
  inRange "spec_start" low 63
  inRange "spec_end" high 63
  inRange "Ah" (bits / 16) 13
  inRange "Al" (bits % 16) 13
  let scan : Scan := ⟨parts, low, high, bits / 16 ≠ 0, bits % 16, ← Reading.position⟩
  let isPlain := components.map Component.ident == [82, 71, 66]
  return { h with scan, model := if isPlain then .rgb else h.model }

/-- Pass over a segment. `known` are those that the format gives a meaning. -/
def skipSegment (known : Bool) : Reading Unit := do
  let n ← word
  if n < 2 then
    throw (quoted (if known then "Found a marker with invalid length:" ++ Decimal.text n ++ "\n"
      else "Found a marker with invalid length : " ++ Decimal.text n))
  Reading.skip (n - 2)

def readApplication (h : Header) : Reading Header := do
  let n ← readLength "Too small APP14 length"
  let start ← Reading.position
  let b ← Reading.file
  Reading.goTo (start + n)
  if Bytes.hasAt b start (Bytes.ascii "Adobe") then
    match Bytes.nat b (start + 11) with
    | 0 => return { h with model := .cmyk }
    | 1 => return { h with model := .ycc }
    | 2 => return { h with model := .ycck }
    | other => throw (quoted ("Unknown Adobe colorspace " ++ Decimal.text other))
  return h

/-- Note the frame. One component is a brightness; four of them are inks unless something else has
been said. -/
def Header.withFrame (h : Header) (f : Frame) : Header :=
  let count := f.components.length
  { h with
    frame := some f
    model := if count = 1 then .luma else if count = 4 ∧ h.model = .ycc then .cmyk else h.model }

/-- Read the segment of a marker. The flag says that it was a scan. -/
def readSegment (marker : Nat) (h : Header) : Reading (Header × Bool) := do
  let most := (← Reading.left) + 1
  if 0xC0 ≤ marker ∧ marker ≤ 0xC2 then
    if h.frame.isSome then
      throw (malformed "Error parsing SOF segment. Reason:Two Start of Frame Markers")
    return (h.withFrame (← readFrame (marker = 0xC2)), false)
  else if marker = 0xC4 then
    return (← readCodes most (← readLength "Invalid Huffman length in image") h, false)
  else if marker = 0xDB then
    return (← readQuantization most (← readLength "Invalid DQT length") h, false)
  else if marker = 0xDD then
    let n ← word
    if n ≠ 4 then throw (quoted "Bad DRI length, Corrupt JPEG")
    return ({ h with restart := ← word }, false)
  else if marker = 0xDA then return (← readScan h, true)
  else if marker = 0xEE then return (← readApplication h, false)
  else if marker = 0xD8 ∨ (0xD0 ≤ marker ∧ marker ≤ 0xD7) then return (h, false)
  else if marker = 0xD9 then throw (quoted "Premature End of image")
  else if marker = 0xCC ∨ marker = 0xDC then
    throw (quoted ("Parsing of the following header `" ++ (if marker = 0xCC then "DAC" else "DNL") ++
      "` is not supported,cannot continue"))
  else
    skipSegment (marker = 0xFE || marker = 0xE0 || marker = 0xED)
    return (h, false)

/-- Pass over filling behind the first byte of a marker. -/
def skipFilling : Nat → Nat → Reading Nat
  | 0, m => pure m
  | steps + 1, m => do if m = 0xFF ∨ m = 0 then skipFilling steps (← byte) else return m

/-- Read segments up to a scan. `last` is the byte before. -/
def readSegments : Nat → Nat → Header → Reading Header
  | 0, _, h => pure h
  | steps + 1, last, h => do
    let m ← byte
    if last = 0xFF then
      let m ← skipFilling steps m
      let (h, isScan) ← readSegment m h
      if isScan then return h
      readSegments steps m h
    else readSegments steps m h

def readHeader : Reading Header := do
  let mark ← word
  if mark ≠ 0xFFD8 then
    let digits := (Nat.toDigits 16 mark).map Char.toUpper
    throw (malformed ("Error parsing image. Illegal start bytes:" ++ String.ofList digits))
  let h ← readSegments ((← Reading.left) + 1) 0 .empty
  if h.frame.isNone then
    throw (quoted "Image contains no frame")
  return h

def dimensions (b : ByteArray) : Except Fault Size := (readHeader.result b 0).map Header.size

end Iconsmith.Jpeg
