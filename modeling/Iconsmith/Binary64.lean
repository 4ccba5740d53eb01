/-!
Nonnegative binary floating-point numbers with 53 significant bits, in exact arithmetic. A number
is a natural significand times a power of two; every operation computes its exact result as a
ratio and rounds it once, to the nearest such number, an exact half to the even significand.

The exponent is unbounded, so this agrees with the 64-bit format wherever a result is neither
subnormal nor too large for it. Quotients and products of numbers below `2^64` never are.
-/

namespace Iconsmith

/-- The number `significand * 2 ^ exponent`. -/
structure Binary64 where
  significand : Nat
  exponent : Int
deriving DecidableEq, Repr

namespace Binary64

/-- Nearest integer to a ratio, an exact half to the even neighbour. -/
def nearest (num den : Nat) : Nat :=
  let q := num / den
  let r := num % den
  if 2 * r > den || (2 * r == den && q % 2 == 1) then q + 1 else q

/-- `num / den * 2 ^ -e` as a ratio of naturals. -/
def scaled (num den : Nat) (e : Int) : Nat × Nat :=
  if e ≤ 0 then (num <<< (-e).toNat, den) else (num, den <<< e.toNat)

/-- The exponent at which the significand of `num / den` has 53 bits before it is rounded. -/
def gauge (num den : Nat) : Int :=
  let e : Int := (num.log2 : Int) - (den.log2 : Int) - 52
  let (n, d) := scaled num den e
  if n / d < 1 <<< 52 then e - 1 else e

/-- Round `num / den * 2 ^ shift` to 53 significant bits. -/
def round (num den : Nat) (shift : Int) : Binary64 :=
  if num = 0 then ⟨0, 0⟩
  else
    let e := gauge num den
    let (n, d) := scaled num den e
    let m := nearest n d
    if m = 1 <<< 53 then ⟨1 <<< 52, e + 1 + shift⟩ else ⟨m, e + shift⟩

def ofNat (n : Nat) : Binary64 := round n 1 0

def ofRatio (num den : Nat) : Binary64 := round num den 0

def mul (x y : Binary64) : Binary64 :=
  round (x.significand * y.significand) 1 (x.exponent + y.exponent)

def add (x y : Binary64) : Binary64 :=
  let e := min x.exponent y.exponent
  round (x.significand <<< (x.exponent - e).toNat + y.significand <<< (y.exponent - e).toNat) 1 e

/-- Half of the number, which is exact. -/
def half (x : Binary64) : Binary64 := ⟨x.significand, x.exponent - 1⟩

def floor (x : Binary64) : Nat :=
  if 0 ≤ x.exponent then x.significand <<< x.exponent.toNat
  else x.significand >>> (-x.exponent).toNat

def le (x y : Binary64) : Bool :=
  let e := min x.exponent y.exponent
  x.significand <<< (x.exponent - e).toNat ≤ y.significand <<< (y.exponent - e).toNat

def lesser (x y : Binary64) : Binary64 := if x.le y then x else y

def one : Binary64 := ⟨1 <<< 52, -52⟩

/-- The 64-bit pattern: eleven bits of biased exponent, then the significand without its leading
bit. -/
def toBits (x : Binary64) : Nat :=
  if x.significand = 0 then 0
  else
    let k := 52 - (x.significand.log2 : Int)
    let m := x.significand <<< k.toNat
    ((x.exponent - k + 1075).toNat - 1) <<< 52 + m

end Binary64
end Iconsmith
