import Iconsmith.Bitmap
import Iconsmith.Codec.Reader
import Iconsmith.Decimal
import Iconsmith.Size
import Iconsmith.Text.Blank

/-!
Reading Radiance HDR files: lines of attributes, a line with the sides, and rows of pixels of three
mantissas and a common exponent, in runs.
-/

namespace Iconsmith.Hdr

open Codec

def malformed (detail : String) : Fault := .malformed .hdr detail

/-- The rest of the line that is being read. -/
def readLineFrom : Nat → List UInt8 → Reading (List UInt8)
  | 0, line => pure line.reverse
  | steps + 1, line => do
    if (← Reading.left) = 0 then return line.reverse
    let c ← Reading.byte
    if c = 10 then return line.reverse else readLineFrom steps (c.toUInt8 :: line)

/-- The next line without its end; `none` behind the last one. -/
def readLine? : Reading (Option (List Char)) := do
  if (← Reading.left) = 0 then return none
  let bytes ← readLineFrom (← Reading.left) []
  return some (bytes.map fun v => Char.ofNat v.toNat)

/-- Digits, a point and digits, of which some must exist, and perhaps an exponent. -/
def isNumeral (s : List Char) : Bool :=
  let unsigned (s : List Char) := match s with
    | '+' :: r | '-' :: r => r
    | s => s
  let s := unsigned s
  let word := String.ofList (s.map Char.toLower)
  if word = "inf" || word = "infinity" || word = "nan" then true
  else
    let whole := s.takeWhile Char.isDigit
    let s := s.drop whole.length
    let (places, s) := match s with
      | '.' :: r => (r.takeWhile Char.isDigit, r.dropWhile Char.isDigit)
      | s => ([], s)
    let exponent := match s with
      | [] => true
      | e :: r =>
        let digits := unsigned r
        (e == 'e' || e == 'E') && !digits.isEmpty && digits.all Char.isDigit
    !(whole.isEmpty && places.isEmpty) && exponent

def checkNumeral (name : String) (s : List Char) : Except Fault Unit :=
  let s := Text.trim s
  if s.isEmpty then
    .error (malformed ("Cannot parse " ++ name ++ " value as f32: cannot parse float from empty string"))
  else if isNumeral s then .ok ()
  else .error (malformed ("Cannot parse " ++ name ++ " value as f32: invalid float literal"))

def words (s : List Char) : List (List Char) :=
  let (word, all) := s.foldr (fun c (word, all) =>
    if Text.isBlank c then ([], if word.isEmpty then all else word :: all) else (c :: word, all))
    ([], [])
  if word.isEmpty then all else word :: all

/-- Check the value of a known attribute; others may have any value. -/
def checkAttribute (line : List Char) : Except Fault Unit :=
  if !line.contains '=' then .ok ()
  else
    let value := (line.dropWhile (· != '=')).drop 1
    match String.ofList (Text.trim (line.takeWhile (· != '='))) with
    | "EXPOSURE" => checkNumeral "EXPOSURE" value
    | "PIXASPECT" => checkNumeral "PIXASPECT" value
    | "COLORCORR" => do
      let numbers := words value
      if numbers.length < 3 then throw (malformed "Not enough numbers in COLORCORR")
      (numbers.take 3).forM (checkNumeral "COLORCORR")
      if 3 < numbers.length then throw (malformed "Extra numbers in COLORCORR")
    | _ => .ok ()

def readAttributes : Nat → Reading Unit
  | 0 => throw (malformed "EOF in header")
  | steps + 1 => do
    match ← readLine? with
    | none => throw (malformed "EOF in header")
    | some [] => return
    | some ('#' :: _) => readAttributes steps
    | some line =>
      checkAttribute line
      readAttributes steps

def readSide (name : String) (s : List Char) : Except Fault UInt32 :=
  match Decimal.ofUnsigned32? s with
  | some n => .ok n
  | none =>
    let digits := match s with
      | '+' :: r => r
      | s => s
    let reason := if !digits.isEmpty && digits.all Char.isDigit then
      "number too large to fit in target type" else "invalid digit found in string"
    .error (malformed ("Cannot parse " ++ name ++ " value as u32: " ++ reason))

/-- The sides in their line. Only rows from the top and columns from the left are supported. -/
def sidesOf (line : List Char) : Except Fault Size :=
  match words line with
  | [tag1, side1, tag2, side2] => do
    if String.ofList tag1 ≠ "-Y" ∨ String.ofList tag2 ≠ "+X" then
      throw (.feature .hdr ("Orientation " ++ String.ofList tag1 ++ " " ++ String.ofList tag2))
    let height ← readSide "height dimension" side1
    let width ← readSide "width dimension" side2
    return ⟨width, height⟩
  | parts =>
    if parts.length < 4 then
      .error (malformed ("Dimensions line too short: have " ++ Decimal.text parts.length ++
        " elements, expected 4"))
    else .error (malformed "Dimensions line too long, expected 4 elements")

def readHeader : Reading Size := do
  if (← Reading.take 10).toList ≠ Bytes.ascii "#?RADIANCE" then
    throw (malformed "Radiance HDR signature not found")
  let _ ← readLine?
  readAttributes ((← Reading.left) + 1)
  match ← readLine? with
  | none => throw (malformed "EOF in dimensions line")
  | some line =>
    let size ← sidesOf line
    if 1 <<< 64 ≤ 3 * size.area then
      throw (.feature .hdr ("Image dimensions (" ++ size.text ++ ") are too large"))
    return size

/-- Three mantissas and an exponent. -/
structure Cell where
  r : Nat
  g : Nat
  b : Nat
  e : Nat
deriving Inhabited, DecidableEq

namespace Cell

def read : Reading Cell := do
  let r ← Reading.byte
  let g ← Reading.byte
  let b ← Reading.byte
  let e ← Reading.byte
  return ⟨r, g, b, e⟩

/-- The power of two that an exponent stands for, times one for a mantissa of 256. -/
def unit (e : Nat) : Float32 :=
  Float32.ofBits (if 1 < e then (e - 1).toUInt32 <<< 23 else e.toUInt32 <<< 22) * 0.00390625

def pixel (c : Cell) : Pixel :=
  let part (m : Nat) := byteOfUnit (unit c.e * m.toFloat32)
  ⟨part c.r, part c.g, part c.b, 255⟩

end Cell

def wrongLength (length width : Nat) : Fault :=
  malformed ("Wrong length of decoded scanline: got " ++ Decimal.text length ++ ", expected " ++
    Decimal.text width)

/-- One byte of every cell of a row, in runs of at least one. -/
def readPlane (width : Nat) : Nat → ByteArray → Reading ByteArray
  | 0, acc => pure acc
  | steps + 1, acc => do
    if width ≤ acc.size then return acc
    let n ← Reading.byte
    let count := if n ≤ 128 then n else n - 128
    if width < acc.size + count then throw (wrongLength (acc.size + count) width)
    if n ≤ 128 then readPlane width steps (acc ++ (← Reading.take count))
    else
      let v ← Reading.byte
      readPlane width steps ((List.replicate count v.toUInt8).foldl ByteArray.push acc)

/-- The rest of a row of cells. One with three mantissas of one repeats the cell before it; several
such in a row make up one number. -/
def readCells (width : Nat) : Nat → Nat → Cell → Array Cell → Reading (Array Cell)
  | 0, _, _, acc => pure acc
  | steps + 1, factor, last, acc => do
    if width ≤ acc.size then return acc
    let c ← Cell.read
    if c.r = 1 ∧ c.g = 1 ∧ c.b = 1 then
      let count := c.e * factor
      if width < acc.size + count then throw (wrongLength (acc.size + count) width)
      readCells width steps (factor * 256) last (acc ++ Array.replicate count last)
    else readCells width steps 1 c (acc.push c)

def readRow (width : Nat) : Reading (Array Cell) := do
  let first ← Cell.read
  let steps := (← Reading.left) + 1
  if first.r = 2 ∧ first.g = 2 ∧ first.b < 128 then
    let r ← readPlane width steps .empty
    let g ← readPlane width steps .empty
    let b ← readPlane width steps .empty
    let e ← readPlane width steps .empty
    return Array.ofFn (n := width) fun i =>
      ⟨Bytes.nat r i.val, Bytes.nat g i.val, Bytes.nat b i.val, Bytes.nat e i.val⟩
  else if first.r = 1 ∧ first.g = 1 ∧ first.b = 1 then
    throw (malformed "First pixel of a scanline shouldn't be run length marker")
  else readCells width steps 1 first #[first]

def readRows (width : Nat) : Nat → Array Pixel → Reading (Array Pixel)
  | 0, acc => pure acc
  | count + 1, acc => do readRows width count (acc ++ (← readRow width).map Cell.pixel)

def dimensions (b : ByteArray) : Except Fault Size := readHeader.result b 0

def readPixels : Reading (Array Pixel) := do
  let size ← readHeader
  checkMemory (12 * size.area)
  if size.area = 0 then return #[]
  readRows size.width.toNat size.height.toNat #[]

/-- The pixels of the image in a file, row by row from the top. -/
def pixels (b : ByteArray) : Except Fault (Array Pixel) := readPixels.result b 0

end Iconsmith.Hdr
