import Iconsmith.Binary32
import Iconsmith.Geometry.Bezier

/-!
Edges of an area on a grid of scan lines. An edge is a straight stretch between two lines; curves
become stretches by forward differences in fixed-point arithmetic. Coordinates are taken on a grid
that is finer than that of the pixels by a power of two, the shift. Fixed-point numbers have 32 bits:
`Dot6` counts sixty-fourths and `Dot16` counts 65536ths of a unit; arithmetic wraps around.
-/

namespace Iconsmith.Raster

open Iconsmith.Geometry

/-- A number of sixty-fourths. -/
abbrev Dot6 := Int32

/-- A number of 65536ths. -/
abbrev Dot16 := Int32

namespace Dot6

def floor (n : Dot6) : Int32 := n >>> 6

def ceil (n : Dot6) : Int32 := (n + 63) >>> 6

/-- Round to nearest, a half up. -/
def round (n : Dot6) : Int32 := (n + 32) >>> 6

def widen (n : Dot6) : Dot16 := n <<< 10

/-- The number of sixty-fourths of a float, without its fraction. -/
def ofFloat (x : Float32) : Dot6 := (x * 64).toInt32

def div (a b : Dot6) : Dot16 :=
  if -32768 ≤ a ∧ a ≤ 32767 then (a <<< 16) / b
  else
    let q := (a.toInt64 <<< 16) / b.toInt64
    if q < -2147483648 then -2147483648 else if 2147483647 < q then 2147483647 else q.toInt32

end Dot6

namespace Dot16

def half : Dot16 := 32768

def round (n : Dot16) : Int32 := (n + half) >>> 16

/-- The product, rounded down. -/
def mul (a b : Int32) : Int32 := ((a.toInt64 * b.toInt64) >>> 16).toInt32

end Dot16

/-- A stretch that crosses the scan lines `first` to `last`: `x` is where it crosses the current one,
`step` how far it moves to the next. The winding is one downwards and minus one upwards. -/
structure Edge where
  x : Dot16
  step : Dot16
  first : Int32
  last : Int32
  winding : Int32
deriving Inhabited, Repr

namespace Edge

/-- The stretch from an upper to a lower point, unless no scan line lies between them. -/
def ofDots? (x₀ y₀ x₁ y₁ : Dot6) (winding : Int32) : Option Edge :=
  let top := Dot6.round y₀
  let bottom := Dot6.round y₁
  if top == bottom then none
  else
    let slope := Dot6.div (x₁ - x₀) (y₁ - y₀)
    let dy := ((top <<< 6) + 32) - y₀
    some ⟨Dot6.widen (x₀ + Dot16.mul slope dy), slope, top, bottom - 1, winding⟩

/-- A coordinate on the fine grid, without its fraction. -/
@[inline]
def dot (shift : Nat) (x : Float32) : Dot6 :=
  .ofInt (Binary32.truncate (x * Float32.ofNat (1 <<< (shift + 6))))

def ofLine (shift : Nat) (p q : Point) : List Edge :=
  let x₀ := dot shift p.x
  let y₀ := dot shift p.y
  let x₁ := dot shift q.x
  let y₁ := dot shift q.y
  (if y₀ > y₁ then ofDots? x₁ y₁ x₀ y₀ (-1) else ofDots? x₀ y₀ x₁ y₁ 1).toList

def roughLength (dx dy : Dot6) : Dot6 :=
  let dx := if dx < 0 then -dx else dx
  let dy := if dy < 0 then -dy else dy
  if dx > dy then dx + (dy >>> 1) else dy + (dx >>> 1)

def bitLength (n : Nat) : Nat := if n = 0 then 0 else n.log2 + 1

/-- The logarithm of the number of stretches for a curve that strays by the given vector. -/
def refinement (dx dy : Dot6) (shift : Nat) : Nat :=
  let distance := (roughLength dx dy + 16) >>> (3 + Int32.ofNat shift)
  bitLength distance.toInt.toNat / 2

/-- The stretch between two points in 65536ths. -/
def ofWide? (x₀ y₀ x₁ y₁ : Dot16) (winding : Int32) : Option Edge :=
  ofDots? (x₀ >>> 10) (y₀ >>> 10) (x₁ >>> 10) (y₁ >>> 10) winding

def ofQuad (shift : Nat) (q : Quad) : List Edge :=
  let d := dot shift
  let (x₀, y₀, x₂, y₂, winding) :=
    if d q.a.y > d q.c.y then (d q.c.x, d q.c.y, d q.a.x, d q.a.y, (-1 : Int32))
    else (d q.a.x, d q.a.y, d q.c.x, d q.c.y, 1)
  let x₁ := d q.b.x
  let y₁ := d q.b.y
  if Dot6.round y₀ == Dot6.round y₂ then []
  else
    let depth := refinement (((x₁ <<< 1) - x₀ - x₂) >>> 2) (((y₁ <<< 1) - y₀ - y₂) >>> 2) shift
    let depth := max 1 (min 6 depth)
    let s := Int32.ofNat depth
    let ax := (x₀ - x₁ - x₁ + x₂) <<< 9
    let bx := Dot6.widen (x₁ - x₀)
    let ay := (y₀ - y₁ - y₁ + y₂) <<< 9
    let by' := Dot6.widen (y₁ - y₀)
    let ddx := ax >>> (s - 1)
    let ddy := ay >>> (s - 1)
    let rec go : Nat → Dot16 → Dot16 → Dot16 → Dot16 → List Edge
      | 0, x, y, _, _ => (ofWide? x y (Dot6.widen x₂) (Dot6.widen y₂) winding).toList
      | count + 1, x, y, dx, dy =>
        let x' := x + (dx >>> (s - 1))
        let y' := y + (dy >>> (s - 1))
        (ofWide? x y x' y' winding).toList ++ go count x' y' (dx + ddx) (dy + ddy)
    go ((1 <<< depth) - 1) (Dot6.widen x₀) (Dot6.widen y₀) (bx + (ax >>> s)) (by' + (ay >>> s))

/-- How far the inner points of a cubic curve stray from a line, on one axis. -/
def stray (a b c d : Dot6) : Dot6 :=
  let s := ((a * 8 - b * 15 + 6 * c + d) * 19) >>> 9
  let t := ((a + 6 * b - c * 15 + d * 8) * 19) >>> 9
  let s := if s < 0 then -s else s
  let t := if t < 0 then -t else t
  if s < t then t else s

def ofCubic (shift : Nat) (q : Cubic) : List Edge :=
  let d := dot shift
  let (q, winding) :=
    if d q.a.y > d q.d.y then ((⟨q.d, q.c, q.b, q.a⟩ : Cubic), (-1 : Int32)) else (q, 1)
  let x₀ := d q.a.x
  let y₀ := d q.a.y
  let x₁ := d q.b.x
  let y₁ := d q.b.y
  let x₂ := d q.c.x
  let y₂ := d q.c.y
  let x₃ := d q.d.x
  let y₃ := d q.d.y
  if Dot6.round y₀ == Dot6.round y₃ then []
  else
    let depth := min 6 (refinement (stray x₀ x₁ x₂ x₃) (stray y₀ y₁ y₂ y₃) 2 + 1)
    let s := Int32.ofNat depth
    let up : Nat := if depth < 4 then 10 - depth else 6
    let down : Nat := depth + 6 - 10
    let u := Int32.ofNat up
    let w := Int32.ofNat down
    let start := fun a b c e : Dot6 =>
      let m := (3 * (b - a)) <<< u
      let n := (3 * (a - b - b + c)) <<< u
      let k := (e + 3 * (b - c) - a) <<< u
      let third := (3 * k) >>> (s - 1)
      (m + (n >>> s) + (k >>> (2 * s)), 2 * n + third, third)
    let (dx, ddx, dddx) := start x₀ x₁ x₂ x₃
    let (dy, ddy, dddy) := start y₀ y₁ y₂ y₃
    let rec go : Nat → Dot16 → Dot16 → Dot16 → Dot16 → Dot16 → Dot16 → List Edge
      | 0, x, y, _, _, _, _ =>
        let y' := Dot6.widen y₃
        (ofWide? x y (Dot6.widen x₃) (if y' < y then y else y') winding).toList
      | count + 1, x, y, dx, dy, ddx, ddy =>
        let x' := x + (dx >>> w)
        let y' := y + (dy >>> w)
        let y' := if y' < y then y else y'
        (ofWide? x y x' y' winding).toList ++
          go count x' y' (dx + (ddx >>> s)) (dy + (ddy >>> s)) (ddx + dddx) (ddy + dddy)
    go ((1 <<< depth) - 1) (Dot6.widen x₀) (Dot6.widen y₀) dx dy ddx ddy

end Edge
end Iconsmith.Raster
