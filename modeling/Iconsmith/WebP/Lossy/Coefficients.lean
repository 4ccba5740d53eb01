import Iconsmith.WebP.Lossy.Square

/-!
The coefficients of squares, and the transforms that make differences to predictions of them. What
came before a block, above and on the left, tells how likely it is that the block has any.
-/

namespace Iconsmith.WebP.Lossy

open Codec

/-- Four by four numbers, row by row. -/
abbrev Block := Array Int

namespace Block

@[inline]
def entry (b : Block) (i : Nat) : Int := (b[i]?).getD 0

def zero : Block := Array.replicate 16 0

/-- Transform all columns and then all rows. `f` gives one of the four numbers that four others turn
into; `bias` is added to the first number of a row, and three bits are dropped in the end. -/
def transform (f : Int → Int → Int → Int → Nat → Int) (bias : Int) (b : Block) : Block :=
  let columns : Block := Array.ofFn (n := 16) fun k =>
    let i := k.val % 4
    f (b.entry i) (b.entry (4 + i)) (b.entry (8 + i)) (b.entry (12 + i)) (k.val / 4)
  Array.ofFn (n := 16) fun k =>
    let i := k.val / 4 * 4
    (f (columns.entry i + bias) (columns.entry (i + 1)) (columns.entry (i + 2))
      (columns.entry (i + 3)) (k.val % 4)) / 8

def sums4 (p q r s : Int) (k : Nat) : Int :=
  match k with
  | 0 => p + s + (q + r)
  | 1 => p - s + (q - r)
  | 2 => p + s - (q + r)
  | _ => p - s - (q - r)

def ofSums (b : Block) : Block := b.transform sums4 3

/-- A number times the square root of two times the cosine of an eighth of a half turn. -/
def long (n : Int) : Int := n * 20091 / 65536 + n

/-- A number times the square root of two times the sine of an eighth of a half turn. -/
def short (n : Int) : Int := n * 35468 / 65536

/-- The inverse cosine transform of four numbers, one of which is wanted. -/
def inverse4 (p q r s : Int) (k : Nat) : Int :=
  match k with
  | 0 => p + r + (long q + short s)
  | 1 => p - r + (short q - long s)
  | 2 => p - r - (short q - long s)
  | _ => p + r - (long q + short s)

def toDifferences (b : Block) : Block := b.transform inverse4 4

end Block

/-- The place in a block of each coefficient in the order of the file. -/
def places : Array Nat := #[0, 1, 4, 8, 5, 2, 3, 6, 9, 12, 13, 10, 7, 11, 14, 15]

/-- The range that each coefficient belongs to. -/
def ranges : Array Nat := #[0, 1, 2, 3, 6, 4, 5, 6, 6, 6, 6, 6, 6, 6, 6, 7]

/-- The kinds of blocks by what they hold: brightness but for the first coefficients, first
coefficients of brightness, colour differences, all of brightness. -/
inductive Content where
  | detail
  | sums
  | chroma
  | luma

def Content.index : Content → Nat
  | detail => 0
  | sums => 1
  | chroma => 2
  | luma => 3

/-- The chances of the decisions about a coefficient. `level` says what came before: nothing, a one, or
more. -/
def chance (chances : Array Nat) (content : Content) (i level k : Nat) : Nat :=
  (chances[((content.index * 8 + (ranges[i]?).getD 0) * 3 + level) * 11 + k]?).getD 0

/-- Read a number of two or more. Larger ones have a base and some bits with chances of their own. -/
def readLarge (ask : Nat → Decisions Bool) : Decisions Nat := do
  let above (base : Nat) (chances : List Nat) : Decisions Nat := do
    return base + (← Decisions.number chances 0)
  if !(← ask 3) then
    if !(← ask 4) then return 2
    return if ← ask 5 then 4 else 3
  if !(← ask 6) then
    if !(← ask 7) then above 5 [159] else above 7 [165, 145]
  else if !(← ask 8) then
    if !(← ask 9) then above 11 [173, 148, 140] else above 19 [176, 155, 140, 135]
  else if !(← ask 10) then above 35 [180, 157, 141, 134, 130]
  else above 67 [254, 254, 243, 230, 196, 177, 153, 140, 133, 130, 129]

/-- Read coefficients from number `16 - count` on. Behind a zero a block does not end. It is given back
whether there were any. -/
def readCoefficients (chances : Array Nat) (content : Content) (f : Factors) :
    Nat → Nat → Bool → Bool → Block → Decisions (Block × Bool)
  | 0, _, _, found, b => pure (b, found)
  | count + 1, level, wasZero, found, b => do
    let i := 15 - count
    let ask (k : Nat) : Decisions Bool := Decisions.ask (chance chances content i level k)
    let goesOn ← if wasZero then pure true else ask 0
    if !goesOn then return (b, found)
    if !(← ask 1) then readCoefficients chances content f count 0 true true b
    else
      let n ← if ← ask 2 then readLarge ask else pure 1
      let isNegative ← Decisions.flag
      let place := (places[i]?).getD 0
      let v := (if isNegative then -(n : Int) else n) * (if place = 0 then f.first else f.others)
      readCoefficients chances content f count (if n = 1 then 1 else 2) false true
        (b.setIfInBounds place v)

/-- Which blocks had coefficients, at an edge of a square: the first coefficients of brightness, four
blocks of brightness, and two blocks of each colour difference. -/
abbrev Edge := Array Bool

/-- The differences of a square: 16 blocks of brightness, and four of each colour difference. -/
structure Residue where
  blocks : Array Block
  /-- Some difference is not zero. -/
  isSome : Bool

/-- Blocks of a square being read: the edges above and on the left, and the blocks so far. -/
structure Filling where
  above : Edge
  left : Edge
  residue : Residue

namespace Filling

/-- Read a block that lies at places `up` of the edge above and `before` of the left one. -/
def readBlock (f : Filling) (chances : Array Nat) (content : Content) (factors : Factors)
    (up before first : Nat) (start : Block) : Decisions (Block × Filling) := do
  let one (e : Edge) (i : Nat) : Nat := if (e[i]?).getD false then 1 else 0
  let level := one f.above up + one f.left before
  let (b, found) ← readCoefficients chances content factors (16 - first) level false false start
  return (b, ⟨f.above.setIfInBounds up found, f.left.setIfInBounds before found,
    { f.residue with isSome := f.residue.isSome || found || b.entry 0 ≠ 0 }⟩)

/-- Read blocks whose place at the edges and whose first coefficients are given. -/
def readBlocks (chances : Array Nat) (content : Content) (factors : Factors) (first : Nat) :
    List (Nat × Nat × Int) → Filling → Decisions Filling
  | [], f => pure f
  | (up, before, start) :: rest, f => do
    let (b, f) ← f.readBlock chances content factors up before first
      (Block.zero.setIfInBounds 0 start)
    readBlocks chances content factors first rest
      { f with residue := ⟨f.residue.blocks.push b.toDifferences, f.residue.isSome⟩ }

end Filling

/-- Read the coefficients of a square between two edges. The edges that it makes are given back with
it. -/
def readResidue (h : Header) (s : Square) (above left : Edge) : Decisions Filling := do
  let q := ((h.kinds[s.kind]?).map Kind.quantizer).getD ⟨⟨0, 0⟩, ⟨0, 0⟩, ⟨0, 0⟩⟩
  let isWhole := match s.luma with
    | .whole _ => true
    | .blocks _ => false
  if s.isEmpty then
    let clear (e : Edge) : Edge := e.mapIdx fun i v => i = 0 && !isWhole && v
    return ⟨clear above, clear left, ⟨Array.replicate 24 Block.zero, false⟩⟩
  let start : Filling := ⟨above, left, ⟨#[], false⟩⟩
  let (firsts, f) ←
    if isWhole then do
      let (b, f) ← start.readBlock h.chances .sums q.sums 0 0 0 .zero
      pure (b.ofSums, { f with residue := ⟨#[], false⟩ })
    else pure (Block.zero, start)
  let square (side offset : Nat) (first : Nat → Int) : List (Nat × Nat × Int) :=
    (List.range (side * side)).map fun i => (offset + i % side, offset + i / side, first i)
  let f ← f.readBlocks h.chances (if isWhole then .detail else .luma) q.luma
    (if isWhole then 1 else 0) (square 4 1 firsts.entry)
  let f ← f.readBlocks h.chances .chroma q.chroma 0 (square 2 5 fun _ => 0)
  f.readBlocks h.chances .chroma q.chroma 0 (square 2 7 fun _ => 0)

end Iconsmith.WebP.Lossy
