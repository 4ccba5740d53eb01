import Iconsmith.Codec.Reader
import Iconsmith.Decimal

/-!
The directory of a TIFF file: fields with a tag, a type and values. Numbers are stored in either
order, which the first bytes of the file tell, and positions in large files take eight bytes instead
of four.
-/

namespace Iconsmith.Tiff

open Codec

def malformed (detail : String) : Fault := .malformed .tiff ("format error: " ++ detail)

inductive Order where
  | lowFirst
  | highFirst
deriving DecidableEq, Repr

namespace Order

def word (o : Order) (b : ByteArray) (i : Nat) : Nat :=
  match o with
  | lowFirst => Bytes.le16 b i
  | highFirst => Bytes.be16 b i

def long (o : Order) (b : ByteArray) (i : Nat) : Nat :=
  match o with
  | lowFirst => Bytes.le32 b i
  | highFirst => Bytes.be32 b i

def quad (o : Order) (b : ByteArray) (i : Nat) : Nat :=
  match o with
  | lowFirst => Bytes.le64 b i
  | highFirst => Bytes.be32 b i <<< 32 + Bytes.be32 b (i + 4)

def readWord (o : Order) : Reading Nat := do return o.word (← Reading.file) (← Reading.advance 2)

def readLong (o : Order) : Reading Nat := do return o.long (← Reading.file) (← Reading.advance 4)

def readQuad (o : Order) : Reading Nat := do return o.quad (← Reading.file) (← Reading.advance 8)

end Order

/-- A field. As many values as a position takes bytes stand in the field itself, more of them
elsewhere. -/
structure Field where
  tag : Nat
  kind : Nat
  count : Nat
  /-- Position of the bytes that hold values or their position. -/
  slot : Nat

/-- Bytes of a value of each type; types that are not known have none. -/
def valueBytes : Nat → Nat
  | 1 | 2 | 6 | 7 => 1
  | 3 | 8 => 2
  | 4 | 9 | 11 | 13 => 4
  | 5 | 10 | 12 | 16 | 17 | 18 => 8
  | _ => 0

/-- A directory, the order of the file, and whether the file is a large one. -/
structure Directory where
  order : Order
  isLarge : Bool
  fields : List Field

namespace Directory

def readFields (o : Order) (isLarge : Bool) : Nat → Reading (List Field)
  | 0 => pure []
  | count + 1 => do
    let tag ← o.readWord
    let kind ← o.readWord
    let n ← if isLarge then o.readQuad else o.readLong
    let slot ← Reading.advance (if isLarge then 8 else 4)
    return ⟨tag, kind, n, slot⟩ :: (← readFields o isLarge count)

/-- Read the first directory of a file. -/
def readFirst : Reading Directory := do
  if (← Reading.left) < 2 then throw (malformed "TIFF signature not found")
  let mark ← Reading.take 2
  let order ←
    if mark.toList = Bytes.ascii "II" then pure Order.lowFirst
    else if mark.toList = Bytes.ascii "MM" then pure Order.highFirst
    else throw (malformed "TIFF signature not found")
  let version ← order.readWord
  let isLarge := version = 43
  if version ≠ 42 ∧ !isLarge then throw (malformed "TIFF signature invalid")
  if isLarge then
    if (← order.readWord) ≠ 8 then throw (malformed "TIFF signature invalid")
    if (← order.readWord) ≠ 0 then throw (malformed "TIFF signature invalid")
  let position := if isLarge then order.readQuad else order.readLong
  Reading.goTo (← position)
  let count ← if isLarge then order.readQuad else order.readWord
  let fields ← readFields order isLarge (min count (← Reading.left))
  let _ ← position
  return ⟨order, isLarge, fields⟩

/-- The value number `i` of a field whose values start at a position. -/
def value (d : Directory) (b : ByteArray) (f : Field) (start i : Nat) : Nat :=
  match f.kind with
  | 3 | 8 => d.order.word b (start + 2 * i)
  | 4 | 9 | 11 | 13 => d.order.long b (start + 4 * i)
  | 16 | 17 | 18 => d.order.quad b (start + 8 * i)
  | _ => Bytes.nat b (start + i)

def values? (d : Directory) (b : ByteArray) (tag : Nat) : Except Fault (Option (List Nat)) :=
  match d.fields.find? fun f => f.tag == tag with
  | none => .ok none
  | some f =>
    let bytes := f.count * valueBytes f.kind
    let start :=
      if d.isLarge then if bytes ≤ 8 then f.slot else d.order.quad b f.slot
      else if bytes ≤ 4 then f.slot else d.order.long b f.slot
    if b.size < start + bytes then .error .shortRead
    else .ok (some ((List.range f.count).map (d.value b f start)))

def first (d : Directory) (b : ByteArray) (tag otherwise : Nat) : Except Fault Nat := do
  return ((← d.values? b tag).bind List.head?).getD otherwise

def require (d : Directory) (b : ByteArray) (tag : Nat) (name : String) : Except Fault Nat := do
  match (← d.values? b tag).bind List.head? with
  | some n => return n
  | none => throw (malformed ("required tag `" ++ name ++ "` not found"))

def has (d : Directory) (tag : Nat) : Bool := d.fields.any fun f => f.tag == tag

end Directory
end Iconsmith.Tiff
