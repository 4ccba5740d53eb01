/-!
Single-precision numbers as integers of 32 bits, and double-precision numbers as single-precision
ones. What lies beyond the integers counts as the last of them, what is no number as zero.
-/

namespace Iconsmith.Binary32

def least : Int := -2147483648

def greatest : Int := 2147483647

@[inline]
def truncate (x : Float32) : Int :=
  if x < 0 then max least (-((-x).toUInt32.toNat : Int)) else min greatest (x.toUInt32.toNat : Int)

@[inline]
def floor (x : Float32) : Int :=
  let n := truncate x
  if x < Float32.ofInt n then max least (n - 1) else n

@[inline]
def ceil (x : Float32) : Int :=
  let n := truncate x
  if Float32.ofInt n < x then min greatest (n + 1) else n

/-- The nearest single-precision number, of two the one with the even significand. -/
def ofFloat (x : Float) : Float32 :=
  match x.toModel.unpack with
  | .finite sign significand exponent _ =>
    ⟨.pack (.roundWithAccuracy .binary32 sign significand exponent .exact)⟩
  | other => ⟨.pack other⟩

end Iconsmith.Binary32
