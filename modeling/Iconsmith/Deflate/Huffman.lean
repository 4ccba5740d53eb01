import Iconsmith.Bytes

/-!
Bits of a compressed stream, the least significant bit of each byte first, what can be wrong with such
a stream, and canonical prefix codes: a code is given by the length of each symbol's word; words of
one length are consecutive in the order of the symbols, shorter words come first.
-/

namespace Iconsmith.Deflate

inductive Fault where
  | badHeader
  | insufficientInput
  | invalidBlockType
  | invalidStoredLength
  | invalidLiteralCount
  | invalidDistanceCount
  | invalidLengthRepeat
  | badLengthCode
  | badLiteralCode
  | badDistanceCode
  | invalidLiteral
  | invalidDistance
  | startsWithRun
  | distanceTooFar
  | wrongChecksum
deriving DecidableEq, Repr

def Fault.name : Fault → String
  | badHeader => "BadZlibHeader"
  | insufficientInput => "InsufficientInput"
  | invalidBlockType => "InvalidBlockType"
  | invalidStoredLength => "InvalidUncompressedBlockLength"
  | invalidLiteralCount => "InvalidHlit"
  | invalidDistanceCount => "InvalidHdist"
  | invalidLengthRepeat => "InvalidCodeLengthRepeat"
  | badLengthCode => "BadCodeLengthHuffmanTree"
  | badLiteralCode => "BadLiteralLengthHuffmanTree"
  | badDistanceCode => "BadDistanceHuffmanTree"
  | invalidLiteral => "InvalidLiteralLengthCode"
  | invalidDistance => "InvalidDistanceCode"
  | startsWithRun => "InputStartsWithRun"
  | distanceTooFar => "DistanceTooFarBack"
  | wrongChecksum => "WrongChecksum"

/-- A place in a stream, counted in bits. -/
structure Cursor where
  bytes : ByteArray
  pos : Nat

namespace Cursor

def left (c : Cursor) : Nat := 8 * c.bytes.size - c.pos

@[inline]
def bitAt (b : ByteArray) (i : Nat) : Nat := (Bytes.nat b (i / 8) >>> (i % 8)) % 2

/-- The number in `count` bits from position `i` on, the least significant bit first. -/
def number (b : ByteArray) (i : Nat) : Nat → Nat
  | 0 => 0
  | count + 1 => bitAt b i + 2 * number b (i + 1) count

/-- Read `count` bits as a number. -/
def take (c : Cursor) (count : Nat) : Except Fault (Nat × Cursor) :=
  if c.left < count then .error .insufficientInput
  else .ok (number c.bytes c.pos count, { c with pos := c.pos + count })

/-- Go on to the start of a byte. -/
def align (c : Cursor) : Cursor := { c with pos := (c.pos + 7) / 8 * 8 }

end Cursor

/-- A prefix code: for each word length, from one bit on, the symbols with words of that length in
ascending order. -/
structure Code where
  symbols : Array (Array Nat)

namespace Code

def maxLength : Nat := 15

/-- The code with the given word lengths; a length of zero means that a symbol has no word. -/
def ofLengths (lengths : Array Nat) : Code where
  symbols := (Array.range maxLength).map fun l =>
    (Array.range lengths.size).filter fun s => (lengths[s]?).getD 0 == l + 1

/-- The share of the space of words of `maxLength` bits that is used up, times two to that
length. -/
def volume (lengths : Array Nat) : Nat :=
  lengths.foldl (fun v l => if l = 0 then v else v + 1 <<< (maxLength - l)) 0

/-- Every row of bits starts with a word. -/
def isComplete (lengths : Array Nat) : Bool := volume lengths == 1 <<< maxLength

/-- Number of symbols that have a word. -/
def count (lengths : Array Nat) : Nat := (lengths.filter (· != 0)).size

/-- Read a symbol: `first` is the first word of the current length and `code` the bits so far. -/
def readFrom (cur : Cursor) (first code : Nat) : List (Array Nat) → Except Bool (Nat × Cursor)
  | [] => .error true
  | row :: rows =>
    if cur.left = 0 then .error false
    else
      let code := code + Cursor.bitAt cur.bytes cur.pos
      let cur := { cur with pos := cur.pos + 1 }
      match if first ≤ code then row[code - first]? else none with
      | some s => .ok (s, cur)
      | none => readFrom cur ((first + row.size) * 2) (code * 2) rows

/-- Read one symbol. Bits that start no word give `invalid`. -/
def read (c : Code) (invalid : Fault) (cur : Cursor) : Except Fault (Nat × Cursor) :=
  match readFrom cur 0 0 c.symbols.toList with
  | .ok r => .ok r
  | .error true => .error invalid
  | .error false => .error .insufficientInput

end Code
end Iconsmith.Deflate
