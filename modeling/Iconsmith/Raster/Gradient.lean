import Iconsmith.Geometry.Transform
import Iconsmith.Raster.Layer

/-!
Colours that change along a line or away from a point. The place of a point on the way between the
stops is a number that is zero at the start and one at the end.
-/

namespace Iconsmith.Raster

open Iconsmith.Geometry

/-- A colour at a place between zero and one. The colour is not multiplied by its alpha. -/
structure Stop where
  offset : Float32
  color : Rgba
deriving BEq, Inhabited, Repr

/-- What lies before the first and behind the last stop. -/
inductive Spread where
  | pad
  | reflect
  | repeated
deriving DecidableEq, Repr

namespace Spread

@[inline]
def unit (t : Float32) : Float32 := min (max t 0) 1

/-- Bring a place into the range of the stops. -/
def apply : Spread → Float32 → Float32
  | pad, t => unit t
  | repeated, t => unit (t - t.floor)
  | reflect, t =>
    let s := t - 1
    let turns := (s * 0.5).floor
    unit (s - (turns + turns) - 1).abs

end Spread

/-- How the place of a point is found once it is mapped to the unit form of the gradient. -/
inductive Ramp where
  /-- Along the first axis. -/
  | linear
  /-- By the distance from the origin. -/
  | radial
  /-- By the circles that touch each other in the origin. -/
  | touching
  /-- By the circles around a focus inside of all of them; the inverse radius. -/
  | focal (inverse : Float32)
  /-- By the circles around a focus outside of them; the inverse radius. -/
  | outer (inverse : Float32)
deriving Repr

/-- From a place on, the colour is `bias + place * factor`. -/
structure Slope where
  start : Float32
  factor : Rgba
  bias : Rgba
deriving Inhabited, Repr

structure Gradient where
  stops : List Stop
  spread : Spread
  ramp : Ramp
  /-- From the space of the gradient to the picture. -/
  place : Transform
  toUnit : Transform
  /-- The colour is computed in 255ths. -/
  coarse : Bool
deriving Repr

/-- A gradient that is ready to be drawn. -/
structure ReadyGradient where
  /-- From the picture to the unit form. -/
  unitForm : Transform
  ramp : Ramp
  spread : Spread
  /-- Places are brought into range before the colour is looked up. -/
  ranged : Bool
  before : Rgba
  slopes : List Slope
  /-- All stops are without transparency. -/
  isSolid : Bool
deriving Repr

namespace Gradient

/-- Stops from zero to one in order. -/
def bracket (stops : List Stop) : List Stop × Bool :=
  match stops.head?, stops.getLast? with
  | some first, some last =>
    let stops := if first.offset != 0 then ⟨0, first.color⟩ :: stops else stops
    let stops := if last.offset != 1 then stops ++ [⟨1, last.color⟩] else stops
    let step := if first.offset != 0 then 0 else ((stops[1]?).map Stop.offset).getD 0
    let rec go : List Stop → Float32 → Bool → List Stop × Bool
      | [], _, uniform => ([], uniform)
      | s :: rest, previous, uniform =>
        let here := if rest.isEmpty then 1 else clamp previous 1 s.offset
        let (rest, uniform) := go rest here (uniform && isTiny (step - (here - previous)))
        (⟨here, s.color⟩ :: rest, uniform)
    if first.offset != 0 then go stops 0 true
    else
      match stops with
      | s :: rest =>
        let (rest, uniform) := go rest 0 true
        (s :: rest, uniform)
      | [] => ([], true)
  | _, _ => ([], true)

/-- The slopes between stops, and a flat one behind the last. -/
def slopesOf : List Stop → List Slope
  | s :: t :: rest =>
    if s.offset < t.offset then
      let factor := Rgba.zip (fun l r => (r - l) / (t.offset - s.offset)) s.color t.color
      ⟨s.offset, factor, Rgba.zip (fun l f => l - f * s.offset) s.color factor⟩ ::
        slopesOf (t :: rest)
    else slopesOf (t :: rest)
  | [s] => [⟨s.offset, .clear, s.color⟩]
  | [] => []

/-- Leave out the ends that only continue the colour of their neighbour. -/
def trimStops (stops : List Stop) : List Stop :=
  if stops.length > 2 then
    let stops := match stops with
      | s :: t :: rest => if s.color == t.color then t :: rest else stops
      | _ => stops
    match stops.reverse with
    | s :: t :: rest => if s.color == t.color then (t :: rest).reverse else stops
    | _ => stops
  else stops

def isSolid (g : Gradient) : Bool := g.stops.all fun s => s.color.a == 1

def fade (g : Gradient) (opacity : Float32) : Gradient :=
  { g with stops := g.stops.map fun s => { s with color := s.color.fade opacity } }

def ready? (g : Gradient) : Option ReadyGradient :=
  g.place.inverse?.map fun back =>
    let (stops, uniform) := bracket g.stops
    let unitForm := g.toUnit.after back
    match stops with
    | [s, t] =>
      { unitForm, ramp := g.ramp, spread := g.spread, ranged := true, before := s.color,
        slopes := [⟨0, Rgba.zip (fun l r => r - l) s.color t.color, s.color⟩], isSolid := g.isSolid }
    | _ =>
      let kept := trimStops stops
      { unitForm, ramp := g.ramp, spread := g.spread, ranged := g.spread != .pad || uniform,
        before := (kept.head?.map Stop.color).getD .clear, slopes := slopesOf kept,
        isSolid := g.isSolid }

/-- The map that takes one point to the origin and another to `(1, 0)`. -/
def lineToUnit (start finish : Point) : Transform :=
  let v := finish - start
  let length := v.length
  let inverse := if length != 0 then 1 / length else 0
  let v := v.scale inverse
  let sin := -v.y
  let cos := v.x
  let turn : Transform :=
    ⟨cos, sin, -sin, cos, sin * start.y + (1 - cos) * start.x, -sin * start.x + (1 - cos) * start.y⟩
  (Transform.scaling inverse inverse).after ((Transform.shift (-start.x) (-start.y)).after turn)

def circleToUnit (centre : Point) (radius : Float32) : Transform :=
  let inverse := 1 / radius
  (Transform.scaling inverse inverse).after (.shift (-centre.x) (-centre.y))

end Gradient

namespace ReadyGradient

/-- The place of a point, unless it has no colour. -/
@[inline]
def place? (g : ReadyGradient) (x y : Nat) : Option Float32 :=
  let px := Float32.ofNat x + 0.5
  let py := Float32.ofNat y + 0.5
  let m := g.unitForm
  let u := px * m.sx + (py * m.kx + m.tx)
  let v := px * m.ky + (py * m.sy + m.ty)
  match g.ramp with
  | .linear => some u
  | .radial => some (u * u + v * v).sqrt
  | .focal k => some ((u * u + v * v).sqrt - u * k)
  | .touching =>
    let t := u + v * v / u
    if t > 0 then some t else none
  | .outer k =>
    let t := (u * u - v * v).sqrt - u * k
    if t > 0 then some t else none

/-- The colour at a place, not multiplied by its alpha. -/
@[inline]
def colorAt (g : ReadyGradient) (t : Float32) : Rgba :=
  let t := if g.ranged then g.spread.apply t else t
  let rec go : List Slope → Option Slope → Option Slope
    | [], found => found
    | s :: rest, found => if t ≥ s.start then go rest (some s) else found
  match g.slopes, go g.slopes none with
  | [s], _ => Rgba.zip (fun f b => t * f + b) s.factor s.bias
  | _, some s => Rgba.zip (fun f b => t * f + b) s.factor s.bias
  | _, none => g.before

/-- The colour of a pixel in 255ths, multiplied by its alpha. -/
def lanes (g : ReadyGradient) (x y : Nat) : Lanes :=
  match g.place? x y with
  | none => .clear
  | some t =>
    let c := Lanes.round (g.colorAt t)
    if g.isSolid then c else c.premultiply

/-- The colour of a pixel, multiplied by its alpha. -/
def rgba (g : ReadyGradient) (x y : Nat) : Rgba :=
  match g.place? x y with
  | none => .clear
  | some t =>
    let c := g.colorAt t
    if g.isSolid then c else ⟨c.r * c.a, c.g * c.a, c.b * c.a, c.a⟩

end ReadyGradient
end Iconsmith.Raster
