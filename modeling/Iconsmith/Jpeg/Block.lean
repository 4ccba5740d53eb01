import Iconsmith.Jpeg.Header

/-!
Blocks of eight by eight samples: their coefficients in the packed data, which may come in several
scans, and the inverse cosine transform in integer arithmetic.
-/

namespace Iconsmith.Jpeg

open Codec

/-- A place in packed data, in bits from the start, the most significant bit of a byte first. Behind
the end all bits are zero. -/
structure Cursor where
  bytes : ByteArray
  pos : Nat

namespace Cursor

@[inline]
def bit (c : Cursor) : Nat × Cursor :=
  ((Bytes.nat c.bytes (c.pos / 8) >>> (7 - c.pos % 8)) % 2, { c with pos := c.pos + 1 })

/-- The next `count` bits as a number, the most significant first, behind those of `acc`. -/
def take : Nat → Nat → Cursor → Nat × Cursor
  | 0, acc, c => (acc, c)
  | count + 1, acc, c =>
    let (b, c) := c.bit
    take count (2 * acc + b) c

/-- The next `count` bits as a difference: the lower half of the numbers stands for negative ones. -/
def difference (count : Nat) (c : Cursor) : Int × Cursor :=
  let (n, c) := c.take count 0
  (if count = 0 then 0 else if n < 1 <<< (count - 1) then (n : Int) - (1 <<< count : Nat) + 1 else n, c)

/-- The next symbol of a code; `first` is the first word of the current length and `word` the bits so
far. Bits that start no word give zero. -/
def symbol (first word : Nat) : Code → Cursor → Nat × Cursor
  | [], c => (0, c)
  | row :: rows, c =>
    let (b, c) := c.bit
    let word := word + b
    match if first ≤ word then row[word - first]? else none with
    | some s => (s, c)
    | none => symbol ((first + row.length) * 2) (word * 2) rows c

end Cursor

/-- The coefficients of all blocks of a component, 64 for each block, in the order of the file. -/
abbrev Coefficients := Array Int

@[inline]
def Coefficients.get (a : Coefficients) (i : Nat) : Int := (a[i]?).getD 0

/-- How the coefficients of a block are read. `base` is the place of its first one. -/
structure Block where
  base : Nat
  scan : Scan

namespace Block

/-- Read the first coefficient as a difference to that of the block before, which is given back
anew. -/
def readFirst (b : Block) (code : Code) (before : Int) (a : Coefficients) (c : Cursor) :
    Coefficients × Int × Cursor :=
  let (bits, c) := c.symbol 0 0 code
  let (d, c) := c.difference bits
  let v := before + d
  (a.setIfInBounds b.base (v * (1 <<< b.scan.shift : Nat)), v, c)

/-- Read one more bit of the first coefficient. -/
def refineFirst (b : Block) (a : Coefficients) (c : Cursor) : Coefficients × Cursor :=
  let (bit, c) := c.bit
  (a.modify b.base (· + (bit <<< b.scan.shift : Nat)), c)

/-- Read the coefficients from number `k` on. The number that is given back counts the blocks behind
this one that have no more of them; only scans of a `progressive` image count such blocks. -/
def readOthers (b : Block) (progressive : Bool) (code : Code) :
    Nat → Nat → Coefficients → Cursor → Coefficients × Nat × Cursor
  | 0, _, a, c => (a, 0, c)
  | steps + 1, k, a, c =>
    if b.scan.high < k then (a, 0, c)
    else
      let (s, c) := c.symbol 0 0 code
      let run := s / 16
      let bits := s % 16
      if bits = 0 then
        if run = 15 then readOthers b progressive code steps (k + 16) a c
        else if progressive then
          let (n, c) := c.take run 0
          (a, 1 <<< run + n - 1, c)
        else (a, 0, c)
      else
        let k := k + run
        let (v, c) := c.difference bits
        let a := if k < 64 then a.setIfInBounds (b.base + k) (v * (1 <<< b.scan.shift : Nat)) else a
        readOthers b progressive code steps (k + 1) a c

def refine (b : Block) (k : Nat) (a : Coefficients) (c : Cursor) : Coefficients × Cursor :=
  let (bit, c) := c.bit
  let v := a.get (b.base + k)
  let unit := 1 <<< b.scan.shift
  if bit = 1 ∧ v.natAbs &&& unit = 0 then
    (a.setIfInBounds (b.base + k) (if 0 ≤ v then v + (unit : Nat) else v - (unit : Nat)), c)
  else (a, c)

/-- Go on from number `k` to the place behind `zeros` coefficients that are zero, refining the others
on the way. -/
def refinePast (b : Block) : Nat → Nat → Nat → Coefficients → Cursor → Nat × Coefficients × Cursor
  | 0, _, k, a, c => (k, a, c)
  | steps + 1, zeros, k, a, c =>
    if b.scan.high < k then (k, a, c)
    else if a.get (b.base + k) = 0 then
      if zeros = 0 then (k, a, c) else refinePast b steps (zeros - 1) (k + 1) a c
    else
      let (a, c) := b.refine k a c
      refinePast b steps zeros (k + 1) a c

def refineRest (b : Block) (k : Nat) (a : Coefficients) (c : Cursor) : Coefficients × Cursor :=
  (b.refinePast 64 64 k a c).2

/-- Refine the coefficients from number `k` on, and read those that now differ from zero. The number
that is given back counts the blocks behind this one in which none does. -/
def refineOthers (b : Block) (code : Code) :
    Nat → Nat → Coefficients → Cursor → Coefficients × Nat × Cursor
  | 0, _, a, c => (a, 0, c)
  | steps + 1, k, a, c =>
    if b.scan.high < k then (a, 0, c)
    else
      let (s, c) := c.symbol 0 0 code
      let run := s / 16
      if s % 16 = 0 ∧ run < 15 then
        let (n, c) := c.take run 0
        let (a, c) := b.refineRest k a c
        (a, 1 <<< run + n - 1, c)
      else
        let (sign, c) := if s % 16 = 0 then (0, c) else c.bit
        let (k, a, c) := b.refinePast 64 run k a c
        let unit : Int := (1 <<< b.scan.shift : Nat)
        let a :=
          if s % 16 = 0 ∨ b.scan.high < k then a
          else a.setIfInBounds (b.base + k) (if sign = 1 then unit else -unit)
        refineOthers b code steps (k + 1) a c

end Block

/-- The inverse transform of eight numbers, scaled by 2 to the 12th; `round` is added to each
result. -/
def inverse8 (v : Nat → Int) (round : Int) : Array Int :=
  let p1 := (v 2 + v 6) * 2217
  let e2 := p1 + v 6 * -7567
  let e3 := p1 + v 2 * 3135
  let e0 := (v 0 + v 4) * 4096
  let e1 := (v 0 - v 4) * 4096
  let x0 := e0 + e3 + round
  let x3 := e0 - e3 + round
  let x1 := e1 + e2 + round
  let x2 := e1 - e2 + round
  let p3 := v 7 + v 3
  let p4 := v 5 + v 1
  let p5 := (p3 + p4) * 4816
  let q1 := p5 + (v 7 + v 1) * -3685
  let q2 := p5 + (v 5 + v 3) * -10497
  let q3 := p3 * -8034
  let q4 := p4 * -1597
  let t3 := v 1 * 6149 + q1 + q4
  let t2 := v 3 * 12586 + q2 + q3
  let t1 := v 5 * 8410 + q2 + q4
  let t0 := v 7 * 1223 + q1 + q3
  #[x0 + t3, x1 + t2, x2 + t1, x3 + t0, x3 - t0, x2 - t1, x1 - t2, x0 - t3]

def clampSample (n : Int) : UInt8 := (max 0 (min n 255)).toNat.toUInt8

/-- For each place in a block, row by row, the number of its coefficient in the order of the file. -/
def places : Array Nat := (Array.range 64).map fun i => zigzag.idxOf i

/-- The samples of a block whose coefficients start at `base` and are multiples of the entries of a
table, row by row: first all columns are transformed, then all rows. -/
def samples (a : Coefficients) (base : Nat) (table : Array Nat) : Array UInt8 :=
  let block : Array Int := places.map fun k => a.get (base + k) * ((table[k]?).getD 0 : Nat)
  let entry (a : Array Int) (i : Nat) : Int := (a[i]?).getD 0
  if (block.toList.drop 1).all (· == 0) then
    Array.replicate 64 (clampSample ((entry block 0 + 4 + 1024).fdiv 8))
  else
    let columns := (Array.range 8).map fun x =>
      (inverse8 (fun y => entry block (8 * y + x)) 512).map fun s => s.fdiv 1024
    let rows := (Array.range 8).map fun y =>
      inverse8 (fun x => entry ((columns[x]?).getD #[]) y) (512 + 65536 + 128 * 131072)
    (rows.flatMap id).map fun s => clampSample (s.fdiv 131072)

end Iconsmith.Jpeg
