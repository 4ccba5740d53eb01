/-!
Points and vectors of the plane with single-precision coordinates. The `y` axis points down.
-/

namespace Iconsmith.Geometry

structure Point where
  x : Float32
  y : Float32
deriving BEq, Inhabited, Repr

/-- Lengths up to this one count as zero. -/
def tiny : Float32 := 1 / 4096

def isTiny (x : Float32) : Bool := x.abs ≤ tiny

/-- Keep a number within bounds; what is no number becomes the lower one. -/
def clamp (low high x : Float32) : Float32 :=
  if x ≥ high then high else if x > low then x else low

/-- The number is finite and above zero. -/
def isPositive (x : Float32) : Bool := x.isFinite && x > 0

/-- The position of a number in the order of all of them: neighbours have neighbouring positions and
both zeros the same. -/
def rank (x : Float32) : Int :=
  let bits := x.toBits.toNat
  if bits < 1 <<< 31 then bits else (1 <<< 31) - bits

/-- At most `steps` representable numbers lie between the two. -/
def isWithin (steps : Nat) (x y : Float32) : Bool := (rank x - rank y).natAbs ≤ steps

namespace Point

def zero : Point := ⟨0, 0⟩

instance : Add Point := ⟨fun p q => ⟨p.x + q.x, p.y + q.y⟩⟩
instance : Sub Point := ⟨fun p q => ⟨p.x - q.x, p.y - q.y⟩⟩
instance : Neg Point := ⟨fun p => ⟨-p.x, -p.y⟩⟩

def scale (p : Point) (k : Float32) : Point := ⟨p.x * k, p.y * k⟩

def dot (p q : Point) : Float32 := p.x * q.x + p.y * q.y

/-- The area that two vectors span, positive if the second lies to the right of the first. -/
def cross (p q : Point) : Float32 := p.x * q.y - p.y * q.x

def lengthSquared (p : Point) : Float32 := p.dot p

def distanceSquared (p q : Point) : Float32 := (p - q).lengthSquared

/-- The length; squares that are too large are computed with double precision. -/
def length (p : Point) : Float32 :=
  let square := p.x * p.x + p.y * p.y
  if square.isFinite then square.sqrt
  else
    let x := p.x.toFloat
    let y := p.y.toFloat
    (x * x + y * y).sqrt.toFloat32

def isFinite (p : Point) : Bool := p.x.isFinite && p.y.isFinite

def isZero (p : Point) : Bool := p.x == 0 && p.y == 0

def hasDirection (p : Point) : Bool := p.isFinite && !p.isZero

/-- The vector of the given length in the same direction, if there is one. -/
def resize? (p : Point) (length : Float32) : Option Point :=
  let x := p.x.toFloat
  let y := p.y.toFloat
  let k := (length.toFloat / (x * x + y * y).sqrt).toFloat32
  let q : Point := ⟨p.x * k, p.y * k⟩
  if q.hasDirection then some q else none

def unit? (p : Point) : Option Point := p.resize? 1

def turnRight (p : Point) : Point := ⟨-p.y, p.x⟩

def turnLeft (p : Point) : Point := ⟨p.y, -p.x⟩

/-- The point at the share `t` of the way. -/
@[inline]
def lerp (p q : Point) (t : Float32) : Point :=
  ⟨p.x + (q.x - p.x) * t, p.y + (q.y - p.y) * t⟩

def isNear (p q : Point) (tolerance : Float32) : Bool :=
  (p.x - q.x).abs ≤ tolerance && (p.y - q.y).abs ≤ tolerance

end Point
end Iconsmith.Geometry
