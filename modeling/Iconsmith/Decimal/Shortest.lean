import Iconsmith.Decimal

/-!
The shortest decimal that reads back as a given 64-bit floating-point number, and among the
shortest ones the nearest. All arithmetic is exact: a number is a significand times a power of
two, and the reals that round to it form an interval whose ends belong to it just when the
significand is even.
-/

namespace Iconsmith.Decimal

/-- The significand and the exponent of the magnitude of a finite number, from its bit pattern. -/
def decompose (bits : Nat) : Nat × Int :=
  let biased : Nat := bits >>> 52 % (1 <<< 11)
  let fraction : Nat := bits % (1 <<< 52)
  if biased = 0 then (fraction, -1074) else (fraction + (1 <<< 52), (biased : Int) - 1075)

/-- A positive number as a ratio, together with half the distances to its lower and upper
neighbours over the same denominator. -/
structure Rounding where
  value : Nat
  below : Nat
  above : Nat
  den : Nat
  closed : Bool

/-- The interval of reals that round to `m * 2 ^ e`. Below a power of two the neighbour is twice
as near. -/
def rounding (m : Nat) (e : Int) : Rounding :=
  let lowEdge := m == (1 <<< 52) && e > -1074
  let up := if 0 ≤ e then 1 <<< e.toNat else 1
  let den := if 0 ≤ e then 1 else 1 <<< (-e).toNat
  { value := 4 * m * up, below := if lowEdge then up else 2 * up, above := 2 * up
    den := 4 * den, closed := m % 2 == 0 }

/-- `d * 10 ^ k` rounds to the number. -/
def Rounding.holds (r : Rounding) (d : Nat) (k : Int) : Bool :=
  let (x, scale) := if 0 ≤ k then (d * Nat.pow 10 k.toNat * r.den, 1) else (d * r.den, Nat.pow 10 (-k).toNat)
  let low := (r.value - r.below) * scale
  let high := (r.value + r.above) * scale
  if r.closed then low ≤ x && x ≤ high else low < x && x < high

/-- The distance of `d * 10 ^ k` from the number, over a denominator that depends on `k` only. -/
def Rounding.distance (r : Rounding) (d : Nat) (k : Int) : Nat :=
  let (x, v) :=
    if 0 ≤ k then (d * Nat.pow 10 k.toNat * r.den, r.value)
    else (d * r.den, r.value * Nat.pow 10 (-k).toNat)
  if x ≤ v then v - x else x - v

def Rounding.onGrid (r : Rounding) (k : Int) : Nat :=
  if 0 ≤ k then r.value / (r.den * Nat.pow 10 k.toNat) else r.value * Nat.pow 10 (-k).toNat / r.den

/-- Try the grids `10 ^ k`, coarser ones first, and take the first with a point that rounds to the
number; of two such points the nearer, of two equally near the even one. -/
def shortestFrom (r : Rounding) : Nat → Int → Nat × Int
  | 0, k => (r.onGrid k, k)
  | tries + 1, k =>
    let d := r.onGrid k
    let lower := r.holds d k
    let upper := r.holds (d + 1) k
    if lower && upper then
      let a := r.distance d k
      let b := r.distance (d + 1) k
      if a < b || (a == b && d % 2 == 0) then (d, k) else (d + 1, k)
    else if lower && d != 0 then (d, k)
    else if upper then (d + 1, k)
    else shortestFrom r tries (k - 1)

/-- Take factors of ten out of a number, at most `tries` of them. -/
def strip : Nat → Nat → Int → Nat × Int
  | 0, d, k => (d, k)
  | tries + 1, d, k => if d % 10 == 0 && d != 0 then strip tries (d / 10) (k + 1) else (d, k)

/-- The digits `d` and the exponent `k` of the shortest decimal `d * 10 ^ k` of a positive number
`m * 2 ^ e`. -/
def shortest (m : Nat) (e : Int) : Nat × Int :=
  let r := rounding m e
  let top : Int := (((m.log2 : Int) + e + 1) * 30103) / 100000 + 1
  let (d, k) := shortestFrom r 20 top
  strip 20 d k

/-- The text of a finite number: positional from `10 ^ -5` up to below `10 ^ 16`, always with a
point, otherwise with a signed exponent of at least two digits. -/
def floatText (bits : Nat) : String :=
  let sign := if bits >>> 63 % 2 = 1 then "-" else ""
  let (m, e) := decompose bits
  if m = 0 then sign ++ "0.0"
  else
    let (d, k) := shortest m e
    let ds := digits d
    let pointAt : Int := ds.length + k
    let zeros (n : Nat) := List.replicate n '0'
    let body :=
      if 0 ≤ k && pointAt ≤ 16 then ds ++ zeros k.toNat ++ ['.', '0']
      else if 0 < pointAt && pointAt ≤ 16 then
        ds.take pointAt.toNat ++ ['.'] ++ ds.drop pointAt.toNat
      else if -5 < pointAt && pointAt ≤ 0 then ['0', '.'] ++ zeros (-pointAt).toNat ++ ds
      else
        let x := pointAt - 1
        let xs := digits x.natAbs
        let mantissa := match ds with
          | [c] => [c]
          | c :: more => c :: '.' :: more
          | [] => []
        mantissa ++ ['e', if x < 0 then '-' else '+'] ++ (if xs.length < 2 then '0' :: xs else xs)
    sign ++ String.ofList body

end Iconsmith.Decimal
