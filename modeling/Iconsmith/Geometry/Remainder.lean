/-!
The exact remainder of a division of binary floating-point numbers.
-/

namespace Iconsmith.Geometry

/-- The significand and the exponent of the magnitude of a number. -/
def decompose (x : Float) : Nat × Int :=
  let bits := x.toBits.toNat % (1 <<< 63)
  let exponent : Nat := bits >>> 52
  let fraction : Nat := bits % (1 <<< 52)
  if exponent = 0 then (fraction, -1074) else (fraction + (1 <<< 52), (exponent : Int) - 1075)

/-- What is left of `x` when the whole multiples of `y` are taken away; it has the sign of `x`. -/
def remainder (x y : Float) : Float :=
  if !x.isFinite || y.isNaN || y == 0 then 0 / 0
  else if !y.isFinite then x
  else
    let (m, e) := decompose x
    let (n, f) := decompose y
    let low := min e f
    let r := (m <<< (e - low).toNat) % (n <<< (f - low).toNat)
    let value := (Float.ofNat r).scaleB low
    if x < 0 then -value else value

end Iconsmith.Geometry
