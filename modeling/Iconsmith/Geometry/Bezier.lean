import Iconsmith.Geometry.Point

/-!
Quadratic and cubic curves: points, directions, roots of their polynomials, and cutting. A curve is
given by its points in order, a parameter runs from zero to one.
-/

namespace Iconsmith.Geometry

structure Quad where
  a : Point
  b : Point
  c : Point
deriving Inhabited, Repr

structure Cubic where
  a : Point
  b : Point
  c : Point
  d : Point
deriving Inhabited, Repr

/-- The quotient, if it lies strictly between zero and one. -/
def properFraction? (num den : Float32) : Option Float32 :=
  let (num, den) := if num < 0 then (-num, -den) else (num, den)
  if den == 0 || num == 0 || num ≥ den then none
  else
    let r := num / den
    if 0 < r && r < 1 then some r else none

/-- The roots of `a * t ^ 2 + b * t + c` strictly between zero and one, in order. -/
def quadraticRoots (a b c : Float32) : List Float32 :=
  if a == 0 then (properFraction? (-c) b).toList
  else
    let discriminant := b.toFloat * b.toFloat - 4 * a.toFloat * c.toFloat
    if discriminant < 0 then []
    else
      let r := discriminant.sqrt.toFloat32
      if !r.isFinite then []
      else
        let q := if b < 0 then -(b - r) / 2 else -(b + r) / 2
        match properFraction? q a, properFraction? c q with
        | some s, some t => if s > t then [t, s] else if s == t then [s] else [s, t]
        | some s, none => [s]
        | none, some t => [t]
        | none, none => []

def clampUnit (t : Float32) : Float32 := clamp 0 1 t

def sortThree (a b c : Float32) : List Float32 :=
  let (a, b) := if a > b then (b, a) else (a, b)
  let (b, c) := if b > c then (c, b) else (b, c)
  let (a, b) := if a > b then (b, a) else (a, b)
  [a, b, c]

/-- Drop what follows two equal numbers, and a last one that repeats the one before. -/
def dropRepeats : List Float32 → List Float32
  | [a, b, c] => if a == b then [a] else if b == c then [a, b] else [a, b, c]
  | rest => rest

/-- The roots of `a * t ^ 3 + b * t ^ 2 + c * t + d`, clamped to the range of a parameter. -/
def cubicRoots (a b c d : Float32) : List Float32 :=
  if isTiny a then quadraticRoots b c d
  else
    let inverse := 1 / a
    let a := b * inverse
    let b := c * inverse
    let c := d * inverse
    let q := (a * a - b * 3) / 9
    let r := (2 * a * a * a - 9 * a * b + 27 * c) / 54
    let qqq := q * q * q
    let difference := r * r - qqq
    let third := a / 3
    if difference < 0 then
      let pi : Float32 := 3.1415926535897932
      let theta := (clamp (-1) 1 (r / qqq.sqrt)).acos
      let k := -2 * q.sqrt
      dropRepeats (sortThree (clampUnit (k * (theta / 3).cos - third))
        (clampUnit (k * ((theta + 2 * pi) / 3).cos - third))
        (clampUnit (k * ((theta - 2 * pi) / 3).cos - third)))
    else
      let s := (r.abs + difference.sqrt).pow 0.3333333
      let s := if r > 0 then -s else s
      let s := if s != 0 then s + q / s else s
      [clampUnit (s - third)]

/-- The three values do not rise or fall throughout. -/
def bends (a b c : Float32) : Bool :=
  let ab := a - b
  let bc := if ab < 0 then -(b - c) else b - c
  ab == 0 || bc < 0

namespace Quad

def eval (q : Quad) (t : Float32) : Point :=
  let axis := fun a b c : Float32 =>
    let k := (b - a) + (b - a)
    let m := c - (b + b) + a
    (m * t + k) * t + a
  ⟨axis q.a.x q.b.x q.c.x, axis q.a.y q.b.y q.c.y⟩

def tangent (q : Quad) (t : Float32) : Point :=
  if (t == 0 && q.a == q.b) || (t == 1 && q.b == q.c) then q.c - q.a
  else
    let axis := fun a b c : Float32 =>
      let k := b - a
      let m := c - b - k
      let s := m * t + k
      s + s
    ⟨axis q.a.x q.b.x q.c.x, axis q.a.y q.b.y q.c.y⟩

def split (q : Quad) (t : Float32) : Quad × Quad :=
  let ab := q.a.lerp q.b t
  let bc := q.b.lerp q.c t
  let m := ab.lerp bc t
  (⟨q.a, ab, m⟩, ⟨m, bc, q.c⟩)

/-- Parts that rise or fall throughout. -/
def monotone (q : Quad) : List Quad :=
  let a := q.a.y
  let b := q.b.y
  let c := q.c.y
  if bends a b c then
    match properFraction? (a - b) (a - b - b + c) with
    | some t =>
      let (r, s) := q.split t
      let y := r.c.y
      [⟨r.a, ⟨r.b.x, y⟩, r.c⟩, ⟨s.a, ⟨s.b.x, y⟩, s.c⟩]
    | none => [⟨q.a, ⟨q.b.x, if (a - b).abs < (b - c).abs then a else c⟩, q.c⟩]
  else [q]

def transpose (q : Quad) : Quad := ⟨⟨q.a.y, q.a.x⟩, ⟨q.b.y, q.b.x⟩, ⟨q.c.y, q.c.x⟩⟩

def bendiest (q : Quad) : Float32 :=
  let ax := q.b.x - q.a.x
  let ay := q.b.y - q.a.y
  let bx := q.a.x - q.b.x - q.b.x + q.c.x
  let by' := q.a.y - q.b.y - q.b.y + q.c.y
  let num := -(ax * bx + ay * by')
  let den := bx * bx + by' * by'
  if num ≤ 0 then 0 else if num ≥ den then 1 else clampUnit (num / den)

end Quad

namespace Cubic

def eval (q : Cubic) (t : Float32) : Point :=
  let axis := fun a b c d : Float32 =>
    let m := d + 3 * (b - c) - a
    let n := 3 * (c - (b + b) + a)
    let k := 3 * (b - a)
    ((m * t + n) * t + k) * t + a
  ⟨axis q.a.x q.b.x q.c.x q.d.x, axis q.a.y q.b.y q.c.y q.d.y⟩

/-- A third of the derivative at a parameter. -/
def derivative (q : Cubic) (t : Float32) : Point :=
  let axis := fun a b c d : Float32 =>
    let m := d + 3 * (b - c) - a
    let n := (c - (b + b) + a) + (c - (b + b) + a)
    let k := b - a
    (m * t + n) * t + k
  ⟨axis q.a.x q.b.x q.c.x q.d.x, axis q.a.y q.b.y q.c.y q.d.y⟩

def tangent (q : Cubic) (t : Float32) : Point :=
  if (t == 0 && q.a == q.b) || (t == 1 && q.c == q.d) then
    let v := if t == 0 then q.c - q.a else q.d - q.b
    if v.isZero then q.d - q.a else v
  else q.derivative t

def split (q : Cubic) (t : Float32) : Cubic × Cubic :=
  let ab := q.a.lerp q.b t
  let bc := q.b.lerp q.c t
  let cd := q.c.lerp q.d t
  let abc := ab.lerp bc t
  let bcd := bc.lerp cd t
  let m := abc.lerp bcd t
  (⟨q.a, ab, abc, m⟩, ⟨m, bcd, cd, q.d⟩)

/-- Cut at parameters in increasing order, given with the one before the first. Where a parameter
cannot be told from the one before, the last part shrinks to the end. -/
def splitMany (q : Cubic) : List Float32 → List Cubic
  | [] => [q]
  | t :: rest => go q t t rest
where
  /-- Cut the rest of a curve: `t` is the parameter in the rest and `t₀` that in the whole. -/
  go (q : Cubic) (t t₀ : Float32) : List Float32 → List Cubic
    | [] =>
      let (r, s) := q.split t
      [r, s]
    | u :: rest =>
      let (r, s) := q.split t
      match properFraction? (u - t₀) (1 - t₀) with
      | some v => r :: go s v u rest
      | none => [r, s, ⟨s.d, s.d, s.d, s.d⟩]

/-- The parameters at which the curve turns back vertically. -/
def turnsY (q : Cubic) : List Float32 :=
  quadraticRoots (q.d.y - q.a.y + 3 * (q.b.y - q.c.y)) (2 * (q.a.y - q.b.y - q.b.y + q.c.y))
    (q.b.y - q.a.y)

/-- Set the height of the inner points next to the cuts to that of the cut. -/
def flattenCuts : List Cubic → List Cubic
  | q :: r :: rest =>
    let y := q.d.y
    let q' : Cubic := ⟨q.a, q.b, ⟨q.c.x, y⟩, q.d⟩
    q' :: flattenCuts (⟨r.a, ⟨r.b.x, y⟩, r.c, r.d⟩ :: rest)
  | rest => rest
termination_by l => l.length

def monotone (q : Cubic) : List Cubic := flattenCuts (q.splitMany q.turnsY)

def transpose (q : Cubic) : Cubic :=
  ⟨⟨q.a.y, q.a.x⟩, ⟨q.b.y, q.b.x⟩, ⟨q.c.y, q.c.x⟩, ⟨q.d.y, q.d.x⟩⟩

def inflections (q : Cubic) : List Float32 :=
  let ax := q.b.x - q.a.x
  let ay := q.b.y - q.a.y
  let bx := q.c.x - 2 * q.b.x + q.a.x
  let by' := q.c.y - 2 * q.b.y + q.a.y
  let cx := q.d.x + 3 * (q.b.x - q.c.x) - q.a.x
  let cy := q.d.y + 3 * (q.b.y - q.c.y) - q.a.y
  quadraticRoots (bx * cy - by' * cx) (ax * cy - ay * cx) (ax * by' - ay * bx)

def bendiest (q : Cubic) : List Float32 :=
  let axis := fun p q r s : Float32 =>
    let a := q - p
    let b := r - 2 * q + p
    let c := s + 3 * (q - r) - p
    (c * c, 3 * b * c, 2 * b * b + c * a, a * b)
  let (x₃, x₂, x₁, x₀) := axis q.a.x q.b.x q.c.x q.d.x
  let (y₃, y₂, y₁, y₀) := axis q.a.y q.b.y q.c.y q.d.y
  cubicRoots (x₃ + y₃) (x₂ + y₂) (x₁ + y₁) (x₀ + y₀)

def onSameSide (p q : Point) (origin finish : Point) : Bool :=
  let v := finish - origin
  v.cross (p - origin) * v.cross (q - origin) ≥ 0

/-- The parameter of a cusp: a point of greatest curvature where the curve stands nearly still. -/
def cusp? (q : Cubic) : Option Float32 :=
  if q.a == q.b || q.c == q.d || onSameSide q.a q.b q.c q.d || onSameSide q.c q.d q.a q.b then none
  else
    let precision := (q.b.distanceSquared q.a + q.c.distanceSquared q.b + q.d.distanceSquared q.c) *
      1e-8
    q.bendiest.find? fun t => 0 < t && t < 1 && (q.derivative t).lengthSquared < precision

end Cubic
end Iconsmith.Geometry
