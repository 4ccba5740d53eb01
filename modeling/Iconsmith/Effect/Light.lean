import Iconsmith.Effect.ColorSpace

/-!
Light on a surface whose height is the alpha of a layer. The slope at a pixel is estimated from its
neighbours; at the border those that are missing are left out.
-/

namespace Iconsmith.Effect

open Raster

structure Vector where
  x : Float32
  y : Float32
  z : Float32
deriving BEq, Repr

namespace Vector

def dot (u v : Vector) : Float32 := u.x * v.x + u.y * v.y + u.z * v.z

def length (v : Vector) : Float32 := v.dot v |>.sqrt

def sub (u v : Vector) : Vector := ⟨u.x - v.x, u.y - v.y, u.z - v.z⟩

/-- The unit vector in the same direction; the zero vector stays. -/
def unit (v : Vector) : Vector :=
  let n := v.length
  if n == 0 then v else ⟨v.x / n, v.y / n, v.z / n⟩

end Vector

inductive Lamp where
  /-- From far away, by two angles in degrees. -/
  | distant (azimuth elevation : Float32)
  | point (place : Vector)
  /-- A cone of light. -/
  | spot (place target : Vector) (exponent : Float32) (limit : Option Float32)
deriving Repr

/-- How a surface throws light back. -/
inductive Shine where
  | diffuse (constant : Float32)
  | specular (constant exponent : Float32)
deriving Repr

structure Lighting where
  lamp : Lamp
  shine : Shine
  /-- The height of full alpha. -/
  scale : Float32
  color : Pixel
deriving Repr

namespace Lighting

/-- A slope: how much the height changes along both axes, each with a weight. -/
structure Slope where
  weightX : Float32
  weightY : Float32
  x : Int
  y : Int

/-- The slope at a pixel of a layer with at least three rows and columns. -/
def slope (l : Layer) (x y : Nat) : Slope :=
  let a := fun (dx dy : Int) => ((l.lanes (x + dx).toNat (y + dy).toNat).a.toNat : Int)
  let left := x == 0
  let right := x + 1 == l.width
  let top := y == 0
  let bottom := y + 1 == l.height
  let third : Float32 := 1 / 3
  let twoThirds : Float32 := 2 / 3
  let half : Float32 := 1 / 2
  let quarter : Float32 := 1 / 4
  if left && top then
    ⟨twoThirds, twoThirds, -2 * a 0 0 + 2 * a 1 0 - a 0 1 + a 1 1,
      -2 * a 0 0 - a 1 0 + 2 * a 0 1 + a 1 1⟩
  else if right && top then
    ⟨twoThirds, twoThirds, -2 * a (-1) 0 + 2 * a 0 0 - a (-1) 1 + a 0 1,
      -a (-1) 0 - 2 * a 0 0 + a (-1) 1 + 2 * a 0 1⟩
  else if left && bottom then
    ⟨twoThirds, twoThirds, -a 0 (-1) + a 1 (-1) - 2 * a 0 0 + 2 * a 1 0,
      -2 * a 0 (-1) - a 1 (-1) + 2 * a 0 0 + a 1 0⟩
  else if right && bottom then
    ⟨twoThirds, twoThirds, -a (-1) (-1) + a 0 (-1) - 2 * a (-1) 0 + 2 * a 0 0,
      -a (-1) (-1) - 2 * a 0 (-1) + a (-1) 0 + 2 * a 0 0⟩
  else if top then
    ⟨third, half, -2 * a (-1) 0 + 2 * a 1 0 - a (-1) 1 + a 1 1,
      -a (-1) 0 - 2 * a 0 0 - a 1 0 + a (-1) 1 + 2 * a 0 1 + a 1 1⟩
  else if bottom then
    ⟨third, half, -a (-1) (-1) + a 1 (-1) - 2 * a (-1) 0 + 2 * a 1 0,
      -a (-1) (-1) - 2 * a 0 (-1) - a 1 (-1) + a (-1) 0 + 2 * a 0 0 + a 1 0⟩
  else if left then
    ⟨half, third, -a 0 (-1) + a 1 (-1) - 2 * a 0 0 + 2 * a 1 0 - a 0 1 + a 1 1,
      -2 * a 0 (-1) - a 1 (-1) + 2 * a 0 1 + a 1 1⟩
  else if right then
    ⟨half, third, -a (-1) (-1) + a 0 (-1) - 2 * a (-1) 0 + 2 * a 0 0 - a (-1) 1 + a 0 1,
      -a (-1) (-1) - 2 * a 0 (-1) + a (-1) 1 + 2 * a 0 1⟩
  else
    ⟨quarter, quarter,
      -a (-1) (-1) + a 1 (-1) - 2 * a (-1) 0 + 2 * a 1 0 - a (-1) 1 + a 1 1,
      -a (-1) (-1) - 2 * a 0 (-1) - a 1 (-1) + a (-1) 1 + 2 * a 0 1 + a 1 1⟩

/-- The vector that stands on a slope; `none` for level ground. -/
def normal? (e : Lighting) (s : Slope) : Option Vector :=
  if s.x == 0 && s.y == 0 then none
  else
    let k := e.scale / 255
    some ⟨Float32.ofInt (-s.x) * k * s.weightX, Float32.ofInt (-s.y) * k * s.weightY, 1⟩

def strength (e : Lighting) (s : Slope) (light : Vector) : Float32 :=
  match e.shine with
  | .diffuse constant =>
    constant * match e.normal? s with
      | none => light.z
      | some n => n.dot light / n.length
  | .specular constant exponent =>
    let h : Vector := { light with z := light.z + 1 }
    let length := h.length
    if length == 0 then 0
    else
      let cosine := match e.normal? s with
        | none => h.z / length
        | some n => n.dot h / n.length / length
      constant * (if exponent == 1 then cosine else cosine.pow exponent)

def degree : Float32 := 0.017453292

def direction (lamp : Lamp) (surface : Vector) : Vector :=
  match lamp with
  | .distant azimuth elevation =>
    let a := azimuth * degree
    let e := elevation * degree
    ⟨a.cos * e.cos, a.sin * e.cos, e.sin⟩
  | .point place => (place.sub surface).unit
  | .spot place .. => (place.sub surface).unit

/-- A part of a colour in some strength, a half rounded up. -/
def part (v : UInt8) (strength : Float32) : UInt8 := (clamp 0 (v.toFloat32 * strength) 255 + 0.5).toUInt8

def dimmed (c : Pixel) (strength : Float32) : Pixel :=
  ⟨part c.r strength, part c.g strength, part c.b strength, c.a⟩

def lampColor (e : Lighting) (light : Vector) : Pixel :=
  match e.lamp with
  | .spot place target exponent limit =>
    let cosine := -(light.dot (target.sub place).unit)
    let outside := limit.any fun angle => cosine < (angle * degree).cos
    if cosine ≤ 0 || outside then ⟨0, 0, 0, 255⟩ else dimmed e.color (cosine.pow exponent)
  | _ => e.color

/-- The light on a layer. A layer with fewer than three rows or columns has none. -/
def apply (e : Lighting) (l : Layer) : Layer :=
  if l.width < 3 || l.height < 3 then .clear l.width l.height
  else
    .ofFn l.width l.height fun x y =>
      let height := fraction (l.lanes x y).a * e.scale
      let light := direction e.lamp ⟨Float32.ofNat x, Float32.ofNat y, height⟩
      let c := dimmed (e.lampColor light) (e.strength (slope l x y) light)
      let alpha := match e.shine with
        | .diffuse _ => 255
        | .specular .. => max c.r (max c.g c.b)
      ⟨c.r.toUInt32, c.g.toUInt32, c.b.toUInt32, alpha.toUInt32⟩

end Lighting
end Iconsmith.Effect
