import Iconsmith.Geometry.Path
import Iconsmith.Geometry.Remainder
import Iconsmith.Svg.TransformList

/-!
Paths, as attributes are written. Coordinates are added up with double precision and rounded at the
end. Elliptical arcs become cubic curves.
-/

namespace Iconsmith.Svg

open Iconsmith.Geometry

structure Place where
  x : Float
  y : Float
deriving BEq, Inhabited, Repr

namespace Place

instance : Add Place := ⟨fun p q => ⟨p.x + q.x, p.y + q.y⟩⟩
instance : Sub Place := ⟨fun p q => ⟨p.x - q.x, p.y - q.y⟩⟩

def scale (k : Float) (p : Place) : Place := ⟨k * p.x, k * p.y⟩

def toPoint (p : Place) : Point := ⟨p.x.toFloat32, p.y.toFloat32⟩

/-- The image of another point under the point reflection in this one. -/
def reflect (p q : Place) : Place := ⟨p.x * 2 - q.x, p.y * 2 - q.y⟩

def rotate (p : Place) (angle : Float) : Place :=
  ⟨p.x * angle.cos - p.y * angle.sin, p.x * angle.sin + p.y * angle.cos⟩

end Place

/-- An arc of an ellipse between two points. -/
structure EndpointArc where
  start : Place
  finish : Place
  radii : Place
  turn : Float
  /-- The arc is longer than half of the ellipse. -/
  large : Bool
  /-- The arc runs clockwise. -/
  clockwise : Bool

/-- An arc of an ellipse around a centre. -/
structure CentreArc where
  centre : Place
  radii : Place
  startAngle : Float
  sweepAngle : Float
  turn : Float

namespace EndpointArc

def circle : Float := 2 * Matrix.pi

/-- The centre of an arc, unless the arc is a line. Radii that are too small are enlarged. -/
def toCentre? (arc : EndpointArc) : Option CentreArc :=
  let rx := arc.radii.x.abs
  let ry := arc.radii.y.abs
  if rx ≤ 1e-5 || ry ≤ 1e-5 || arc.start == arc.finish then none
  else
    let turn := remainder arc.turn circle
    let sin := turn.sin
    let cos := turn.cos
    let dx := (arc.start.x - arc.finish.x) * 0.5
    let dy := (arc.start.y - arc.finish.y) * 0.5
    let mx := (arc.start.x + arc.finish.x) * 0.5
    let my := (arc.start.y + arc.finish.y) * 0.5
    let p : Place := ⟨cos * dx + sin * dy, -sin * dx + cos * dy⟩
    let excess := p.x * p.x / (rx * rx) + p.y * p.y / (ry * ry)
    let k := if excess > 1 then excess.sqrt else 1
    let rx := rx * k
    let ry := ry * k
    let area := rx * ry
    let u := rx * p.y
    let v := ry * p.x
    let squares := u * u + v * v
    let sign : Float := if arc.large == arc.clockwise then -1 else 1
    let k := sign * ((area * area - squares) / squares).abs.sqrt
    let c : Place := ⟨k * u / ry, -k * v / rx⟩
    let centre : Place := ⟨cos * c.x - sin * c.y + mx, sin * c.x + cos * c.y + my⟩
    let angle := fun q : Place => ((q.y - c.y) / ry).atan2 ((q.x - c.x) / rx)
    let startAngle := angle p
    let sweep := remainder (angle ⟨-p.x, -p.y⟩ - startAngle) circle
    let sweep :=
      if arc.clockwise && sweep < 0 then sweep + circle
      else if !arc.clockwise && sweep > 0 then sweep - circle
      else sweep
    some ⟨centre, ⟨rx, ry⟩, startAngle, sweep, arc.turn⟩

end EndpointArc

namespace CentreArc

/-- The vector from the centre at an angle. -/
def sample (arc : CentreArc) (angle : Float) : Place :=
  (⟨arc.radii.x * angle.cos, arc.radii.y * angle.sin⟩ : Place).rotate arc.turn

/-- The number of curves that stay within a tenth of a unit. -/
def pieces (arc : CentreArc) : Float :=
  let wanted := (1.1163 * (max arc.radii.x arc.radii.y / 0.1)).pow (1.0 / 6.0)
  (max wanted 3.999999 * arc.sweepAngle.abs * (1 / EndpointArc.circle)).ceil

/-- The control points and the end of each curve. -/
def cubics (arc : CentreArc) : List (Place × Place × Place) :=
  let n := arc.pieces
  let step := arc.sweepAngle / n
  let sign : Float := if arc.sweepAngle < 0 then -1 else 1
  let arm := (4.0 / 3.0) * (0.25 * step).abs.tan * sign
  let quarter := Matrix.pi / 2
  let rec go : Nat → Float → Place → List (Place × Place × Place)
    | 0, _, _ => []
    | count + 1, angle, p =>
      let next := angle + step
      let q := p + (arc.sample (angle + quarter)).scale arm
      let s := arc.sample next
      let r := s - (arc.sample (next + quarter)).scale arm
      (arc.centre + q, arc.centre + r, arc.centre + s) :: go count next s
  go n.toUInt64.toNat arc.startAngle (arc.sample arc.startAngle)

end CentreArc

/-- The end of an arc and its curves; an arc that has none is a line. -/
def EndpointArc.draw (arc : EndpointArc) (path : Path) : Path :=
  match arc.toCentre? with
  | none => path.lineTo arc.finish.toPoint
  | some c => c.cubics.foldl (fun path (q, r, s) =>
      path.cubicTo q.toPoint r.toPoint s.toPoint) path

namespace PathData

/-- What was drawn last, if a smooth curve can continue it: its control point that counts. -/
inductive Tail where
  | none
  | quad (control : Place)
  | cubic (control : Place)

/-- A path that is being drawn. -/
structure Pen where
  path : Path
  here : Place
  /-- Where the contour began. -/
  start : Place
  tail : Tail
  /-- The last command closed the contour. -/
  closed : Bool

namespace Pen

/-- The end of the last step becomes the current point. -/
def goTo (pen : Pen) (path : Path) (p : Place) (tail : Tail) : Pen :=
  { pen with path, here := p, tail, closed := false }

def step (pen : Pen) (command : Char) (numbers : List Float) : Pen :=
  let relative := command.isLower
  let base : Place := if relative then pen.here else ⟨0, 0⟩
  let at' (x y : Float) : Place := if relative then ⟨x + base.x, y + base.y⟩ else ⟨x, y⟩
  match command.toLower, numbers with
  | 'm', [x, y] =>
    let p := at' x y
    { pen with path := pen.path.moveTo p.toPoint, here := p, start := p, tail := .none, closed := false }
  | 'l', [x, y] =>
    let p := at' x y
    pen.goTo (pen.path.lineTo p.toPoint) p .none
  | 'h', [x] =>
    let p : Place := ⟨(at' x 0).x, pen.here.y⟩
    pen.goTo (pen.path.lineTo p.toPoint) p .none
  | 'v', [y] =>
    let p : Place := ⟨pen.here.x, (at' 0 y).y⟩
    pen.goTo (pen.path.lineTo p.toPoint) p .none
  | 'c', [x₁, y₁, x₂, y₂, x, y] =>
    let c := at' x₁ y₁
    let d := at' x₂ y₂
    let p := at' x y
    pen.goTo (pen.path.cubicTo c.toPoint d.toPoint p.toPoint) p (.cubic d)
  | 's', [x₂, y₂, x, y] =>
    let c := match pen.tail with
      | .cubic c => pen.here.reflect c
      | _ => pen.here
    let d := at' x₂ y₂
    let p := at' x y
    pen.goTo (pen.path.cubicTo c.toPoint d.toPoint p.toPoint) p (.cubic d)
  | 'q', [x₁, y₁, x, y] =>
    let c := at' x₁ y₁
    let p := at' x y
    pen.goTo (pen.path.quadTo c.toPoint p.toPoint) p (.quad c)
  | 't', [x, y] =>
    let c := match pen.tail with
      | .quad c => pen.here.reflect c
      | _ => pen.here
    let p := at' x y
    pen.goTo (pen.path.quadTo c.toPoint p.toPoint) p (.quad c)
  | 'a', [rx, ry, turn, large, clockwise, x, y] =>
    let p := at' x y
    let arc : EndpointArc :=
      ⟨pen.here, p, ⟨rx, ry⟩, Matrix.radians turn, large != 0, clockwise != 0⟩
    pen.goTo (arc.draw pen.path) p .none
  | 'z', [] =>
    if pen.closed then pen
    else { pen with path := pen.path.close, here := pen.start, tail := .none, closed := true }
  | _, _ => pen

end Pen

/-- What the numbers of a command are: a flag is a single digit. -/
inductive Slot where
  | number
  | flag

def slots : Char → List Slot
  | 'h' => [.number]
  | 'v' => [.number]
  | 'c' => .replicate 6 .number
  | 's' => .replicate 4 .number
  | 'q' => .replicate 4 .number
  | 'a' => [.number, .number, .number, .flag, .flag, .number, .number]
  | 'z' => []
  | _ => [.number, .number]

/-- A flag with what separates it from the next number. -/
def readFlag : Reader Float := fun s =>
  let behind : List Char → List Char
    | ',' :: rest => skipBlanks rest
    | rest => skipBlanks rest
  match skipBlanks s with
  | '0' :: rest => some (0, behind rest)
  | '1' :: rest => some (1, behind rest)
  | _ => none

def readSlots : List Slot → List Char → Option (List Float × List Char)
  | [], s => some ([], s)
  | slot :: slots, s => do
    let (x, rest) ← match slot with
      | .number => readListNumber s
      | .flag => readFlag s
    let (xs, rest) ← readSlots slots rest
    return (x :: xs, rest)

def isCommand (c : Char) : Bool := "MmZzLlHhVvCcSsQqTtAa".toList.contains c

/-- The command at the beginning of a text, given the one before it: numbers without a letter belong
to the same command, but behind a move to lines. The first command is a move. -/
def nextCommand? (previous : Option Char) (s : List Char) : Option (Char × List Char) :=
  match s, previous with
  | c :: rest, none => if c == 'M' || c == 'm' then some (c, rest) else none
  | c :: rest, some p =>
    if isCommand c then some (c, rest)
    else if !c.isDigit && c != '.' && c != '-' && c != '+' then none
    else if p == 'Z' || p == 'z' then none
    else some (if p == 'M' then 'L' else if p == 'm' then 'l' else p, s)
  | [], _ => none

/-- Draw the commands of a text up to the first that is wrong. -/
def drawAll : Nat → Option Char → List Char → Pen → Pen
  | 0, _, _, pen => pen
  | fuel + 1, previous, s, pen =>
    match nextCommand? previous (skipBlanks s) with
    | none => pen
    | some (c, rest) =>
      match readSlots (slots c.toLower) rest with
      | none => pen
      | some (numbers, rest) => drawAll fuel (some c) rest (pen.step c numbers)

def path (s : String) : Path :=
  (drawAll (s.length + 1) none s.toList ⟨.empty, ⟨0, 0⟩, ⟨0, 0⟩, .none, false⟩).path

end PathData
end Iconsmith.Svg
