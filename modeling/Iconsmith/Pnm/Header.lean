import Iconsmith.Codec.Reader
import Iconsmith.Decimal
import Iconsmith.Size
import Iconsmith.Text.Quoted

/-!
The headers of PNM files. The older kinds have two or three numbers between blanks and comments; the
newest has lines of a word and a value.
-/

namespace Iconsmith.Pnm

open Codec

inductive Colour where
  | gray
  | grayAlpha
  | rgb
  | rgba
deriving DecidableEq, Repr

def Colour.channels : Colour → Nat
  | gray => 1
  | grayAlpha => 2
  | rgb => 3
  | rgba => 4

inductive Encoding where
  /-- Digits between blanks. -/
  | digits
  /-- Bytes, or pairs of bytes if samples exceed a byte. -/
  | bytes
  /-- The digit one for black and zero for white. -/
  | bitDigits
  /-- A set bit for black. -/
  | bits
  /-- A byte of one for white and zero for black. -/
  | bitBytes
deriving DecidableEq, Repr

structure Header where
  size : Size
  colour : Colour
  encoding : Encoding
  top : Nat
  dataAt : Nat

def Header.sampleBytes (h : Header) : Nat := if 255 < h.top then 2 else 1

def malformed (detail : String) : Fault := .malformed .pnm detail

def hexDigit (n : Nat) : Char := Char.ofNat (if n < 10 then 48 + n else 55 + n)

def hexByte (n : Nat) : String := "0x" ++ String.ofList [hexDigit (n / 16), hexDigit (n % 16)]

def isBlank (n : Nat) : Bool := (9 ≤ n && n ≤ 13) || n == 32

def next? : Reading (Option Nat) := do
  if (← Reading.left) = 0 then return none
  return some (← Reading.byte)

/-- Continue a number by a digit; a number of more than `bits` bits is refused. -/
def addDigit (source : String) (bits : Nat) (n : Option Nat) (byte : Nat) : Except Fault Nat :=
  if byte < 48 ∨ 57 < byte then
    .error (malformed ("Non-ASCII-digit character when parsing number in " ++ source))
  else
    let v := n.getD 0 * 10 + (byte - 48)
    if v < 1 <<< bits then .ok v
    else .error (malformed ("Overflow when parsing integer in " ++ source))

/-- Read a number and the blank behind it. Blanks in front of it do not count, nor do comments from
a number sign up to and with the end of the line. -/
def readNumberFrom : Nat → Bool → Option Nat → Reading Nat
  | 0, _, _ => throw .unexpectedEnd
  | steps + 1, inComment, n => do
    match ← next? with
    | none =>
      match n with
      | some v => return v
      | none => throw .unexpectedEnd
    | some c =>
      if inComment then readNumberFrom steps (c ≠ 10 ∧ c ≠ 13) n
      else if c = 35 then readNumberFrom steps true n
      else if isBlank c then
        match n with
        | some v => return v
        | none => readNumberFrom steps false none
      else readNumberFrom steps false (some (← addDigit "number in preamble" 32 n c))

def readNumber : Reading Nat := do
  readNumberFrom ((← Reading.left) + 1) false none

/-- The greatest sample must be positive and fit into two bytes. -/
def checkTop (top : Nat) : Except Fault Unit :=
  if top = 0 then .error (malformed "Image MAXVAL is zero")
  else if 65535 < top then
    .error (malformed ("Image MAXVAL exceeds 65535: " ++ Decimal.text top))
  else .ok ()

/-- A header of two sides and perhaps the greatest sample. -/
def readPlain (colour : Colour) (encoding : Encoding) : Reading Header := do
  let width ← readNumber
  let height ← readNumber
  let hasTop := encoding = .digits ∨ encoding = .bytes
  let top ← if hasTop then readNumber else pure 1
  if hasTop then checkTop top
  return ⟨⟨width.toUInt32, height.toUInt32⟩, colour, encoding, top, ← Reading.position⟩

/-! ### Headers of lines -/

/-- The values of the lines so far. -/
structure Lines where
  height : Option Nat
  width : Option Nat
  depth : Option Nat
  top : Option Nat
  kind : Option String

/-- The rest of the line with its line feed. -/
def readLineFrom : Nat → List Char → Reading (List Char)
  | 0, line => pure line.reverse
  | steps + 1, line => do
    match ← next? with
    | none => return line.reverse
    | some c =>
      let line := Char.ofNat c :: line
      if c = 10 then return line.reverse else readLineFrom steps line

/-- The next line with its line feed; behind the last one it is empty. -/
def readLine : Reading (List Char) := do readLineFrom (← Reading.left) []

def isSpace (c : Char) : Bool := isBlank c.toNat

def trim (s : List Char) : List Char :=
  ((s.dropWhile isSpace).reverse.dropWhile isSpace).reverse

def numberFault (s : List Char) : String :=
  let digits := match s with
    | '+' :: rest => rest
    | s => s
  if s.isEmpty then "cannot parse integer from empty string"
  else if digits.isEmpty || !digits.all Char.isDigit then "invalid digit found in string"
  else "number too large to fit in target type"

/-- The number of a line that may only occur once. -/
def lineNumber (name : String) (old : Option Nat) (rest : List Char) : Except Fault (Option Nat) :=
  if old.isSome then .error (malformed ("Duplicate " ++ name ++ " line"))
  else
    match Decimal.ofUnsigned32? (trim rest) with
    | some n => .ok (some n.toNat)
    | none =>
      .error (malformed ("Error parsing " ++ Text.quoted rest ++ " as " ++ name ++
        ": " ++ numberFault (trim rest)))

/-- Read lines up to the closing one. Every line has at least one byte. -/
def readLines : Nat → Lines → Reading Lines
  | 0, _ => throw (malformed "Unexpected end of PNM header")
  | steps + 1, l => do
    let line ← readLine
    if line.isEmpty then throw (malformed "Unexpected end of PNM header")
    if line.head? = some '#' then readLines steps l
    else if line.any fun c => 127 < c.toNat then throw (malformed "Non-ASCII line in PAM header")
    else
      let word := line.takeWhile fun c => !isSpace c
      let rest := (line.dropWhile isSpace).drop word.length
      match String.ofList word with
      | "ENDHDR" => return l
      | "HEIGHT" => readLines steps { l with height := ← lineNumber "HEIGHT" l.height rest }
      | "WIDTH" => readLines steps { l with width := ← lineNumber "WIDTH" l.width rest }
      | "DEPTH" => readLines steps { l with depth := ← lineNumber "DEPTH" l.depth rest }
      | "MAXVAL" => readLines steps { l with top := ← lineNumber "MAXVAL" l.top rest }
      | "TUPLTYPE" =>
        let kind := String.ofList (trim rest)
        let kind := match l.kind with
          | some old => old ++ " " ++ kind
          | none => kind
        readLines steps { l with kind := some kind }
      | other => throw (malformed ("Unknown header line with identifier " ++ Text.quoted other.toList))

def optional : Option Nat → String
  | none => "None"
  | some n => "Some(" ++ Decimal.text n ++ ")"

/-- The kinds of pixel with a name: their colour and whether they hold zero or one only. -/
def kindOf? : String → Option (Colour × Bool)
  | "BLACKANDWHITE" => some (.gray, true)
  | "BLACKANDWHITE_ALPHA" => some (.grayAlpha, true)
  | "GRAYSCALE" => some (.gray, false)
  | "GRAYSCALE_ALPHA" => some (.grayAlpha, false)
  | "RGB" => some (.rgb, false)
  | "RGB_ALPHA" => some (.rgba, false)
  | _ => none

def unnamedKind? : Nat → Option Colour
  | 1 => some .gray
  | 2 => some .grayAlpha
  | 3 => some .rgb
  | 4 => some .rgba
  | _ => none

def lineColour (kind : Option String) (depth top : Nat) : Except Fault (Colour × Encoding) :=
  if top = 0 then .error (malformed "Image MAXVAL is zero")
  else
    match kind with
    | none =>
      match unnamedKind? depth with
      | some c => .ok (c, .bytes)
      | none => .error (malformed "Tuple type not recognized")
    | some name =>
      match kindOf? name with
      | none => .error (.feature .pnm ("Tuple type " ++ Text.quoted name.toList))
      | some (c, isBit) =>
        if depth = c.channels ∧ top ≤ (if isBit then 1 else 65535) then
          .ok (c, if isBit then .bitBytes else .bytes)
        else if c = .rgb ∨ c = .rgba then
          .error (malformed ("Invalid depth (" ++ Decimal.text depth ++ ") for tuple type " ++ name))
        else
          .error (malformed ("Invalid depth (" ++ Decimal.text depth ++ ") or maxval (" ++
            Decimal.text top ++ ") for tuple type " ++ name))

def readLined : Reading Header := do
  match ← next? with
  | none => throw .unexpectedEnd
  | some c => if c ≠ 10 then throw (malformed ("Expected newline after P7 magic, got " ++ hexByte c))
  let l ← readLines ((← Reading.left) + 1) ⟨none, none, none, none, none⟩
  match l.height, l.width, l.depth, l.top with
  | some height, some width, some depth, some top =>
    let (colour, encoding) ← lineColour l.kind depth top
    return ⟨⟨width.toUInt32, height.toUInt32⟩, colour, encoding, top, ← Reading.position⟩
  | _, _, _, _ =>
    throw (malformed ("Missing header line: have height=" ++ optional l.height ++ ", width=" ++
      optional l.width ++ ", depth=" ++ optional l.depth ++ ", maxval=" ++ optional l.top))

/-- Read a header, whose kind a digit tells. -/
def readKind : Reading Header := do
  let mark ← Reading.take 2
  let digit := Bytes.nat mark 1
  if Bytes.nat mark 0 ≠ 80 ∨ digit < 49 ∨ 55 < digit then
    throw (malformed ("Expected magic constant for PNM: P1..P7, got [" ++ hexByte (Bytes.nat mark 0) ++
      ", " ++ hexByte digit ++ "]"))
  match digit - 48 with
  | 1 => readPlain .gray .bitDigits
  | 2 => readPlain .gray .digits
  | 3 => readPlain .rgb .digits
  | 4 => readPlain .gray .bits
  | 5 => readPlain .gray .bytes
  | 6 => readPlain .rgb .bytes
  | _ => readLined

/-- Read the header of a file. The samples of an image must be countable in 64 bits. -/
def readHeader : Reading Header := do
  let h ← readKind
  if 1 <<< 64 ≤ h.size.area * (h.colour.channels * h.sampleBytes) then
    throw (.feature .pnm ("Image dimensions (" ++ h.size.text ++ ") are too large"))
  return h

def dimensions (b : ByteArray) : Except Fault Size :=
  (readHeader.result b 0).map Header.size

end Iconsmith.Pnm
