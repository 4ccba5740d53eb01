import Iconsmith.Bytes
import Iconsmith.WebP.Container

/-!
Arithmetically coded decisions: each is a yes or a no, and the likelier its outcome was held to be,
the less of the data it takes.
-/

namespace Iconsmith.WebP.Lossy

open Codec

/-- A place in coded data: the position of the next bit, the width of the range that is left, and the
eight bits that tell where in the range the data lies. -/
structure Cursor where
  bytes : ByteArray
  pos : Nat
  range : Nat
  value : Nat

namespace Cursor

def ofBytes (b : ByteArray) : Cursor := ⟨b, 8, 255, Bytes.nat b 0⟩

/-- Move the next `count` bits into the value. Behind the end all bits are zero. -/
def shift : Nat → Cursor → Cursor
  | 0, c => c
  | count + 1, c =>
    let bit := Bytes.nat c.bytes (c.pos / 8) >>> (7 - c.pos % 8) % 2
    shift count { c with pos := c.pos + 1, value := 2 * c.value + bit }

/-- The outcome of a decision for which a no has `chance` out of 256. -/
def decide (c : Cursor) (chance : Nat) : Bool × Cursor :=
  let split := 1 + ((c.range - 1) * chance) >>> 8
  let isYes : Bool := split ≤ c.value
  let range := if isYes then c.range - split else split
  let value := if isYes then c.value - split else c.value
  let count := 7 - range.log2
  (isYes, shift count { c with range := range <<< count, value := value })

end Cursor

/-- A reading of decisions. -/
abbrev Decisions (α : Type) := StateT Cursor (Except Fault) α

namespace Decisions

/-- The next decision. Data may be short of one byte. -/
def ask (chance : Nat) : Decisions Bool := do
  let c ← get
  if 8 * (c.bytes.size + 1) < c.pos then throw (malformed "Corrupt bitstream")
  let (isYes, c) := c.decide chance
  set c
  return isYes

/-- A decision without a preference. -/
def flag : Decisions Bool := ask 128

/-- Decisions as the bits of a number behind those of `acc`, the most significant first. Each has its
own chance. -/
def number : List Nat → Nat → Decisions Nat
  | [], acc => pure acc
  | chance :: rest, acc => do number rest (2 * acc + if ← ask chance then 1 else 0)

def literal (count : Nat) : Decisions Nat := number (List.replicate count 128) 0

/-- A number of `count` bits that may be left out, followed by its sign. -/
def signed? (count : Nat) : Decisions Int := do
  if !(← flag) then return 0
  let n ← literal count
  return if ← flag then -(n : Int) else n

end Decisions
end Iconsmith.WebP.Lossy
