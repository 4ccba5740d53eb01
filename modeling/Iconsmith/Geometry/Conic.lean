import Iconsmith.Geometry.Path

/-!
Arcs as rational quadratic curves, and their approximation by plain ones.
-/

namespace Iconsmith.Geometry

/-- A rational quadratic curve: the middle point counts with a weight. -/
structure Conic where
  a : Point
  b : Point
  c : Point
  weight : Float32
deriving Inhabited, Repr

def halfRootTwo : Float32 := 0.70710678118

namespace Conic

/-- The logarithm of the number of plain curves that come within a quarter of a unit. At least two
are used. -/
def depth (q : Conic) : Nat :=
  let a := q.weight - 1
  let k := a / (4 * (2 + a))
  let x := k * (q.a.x - 2 * q.b.x + q.c.x)
  let y := k * (q.a.y - 2 * q.b.y + q.c.y)
  let rec go : Nat → Float32 → Nat
    | 0, _ => 0
    | n + 1, error => if error ≤ 0.25 then 0 else 1 + go n (error * 0.25)
  max 1 (go 4 (x * x + y * y).sqrt)

def split (q : Conic) : Conic × Conic :=
  let k := 1 / (1 + q.weight)
  let weight := (0.5 + q.weight * 0.5).sqrt
  let w := q.b.scale q.weight
  let m : Point := ⟨(q.a.x + (w.x + w.x) + q.c.x) * k * 0.5, (q.a.y + (w.y + w.y) + q.c.y) * k * 0.5⟩
  (⟨q.a, (q.a + w).scale k, m, weight⟩, ⟨m, (w + q.c).scale k, q.c, weight⟩)

def between (a b c : Float32) : Bool := (a - b) * (c - b) ≤ 0

/-- Cut in two parts that rise or fall throughout if the whole does. -/
def splitInOrder (q : Conic) : Conic × Conic :=
  let (r, s) := q.split
  let first := q.a.y
  let last := q.c.y
  if between first q.b.y last then
    let mid := r.c.y
    let mid :=
      if between first mid last then mid
      else if (mid - first).abs < (mid - last).abs then first else last
    let r := { r with c := ⟨r.c.x, mid⟩ }
    let s := { s with a := ⟨s.a.x, mid⟩ }
    let r := if between first r.b.y mid then r else { r with b := ⟨r.b.x, first⟩ }
    let s := if between mid s.b.y last then s else { s with b := ⟨s.b.x, last⟩ }
    (r, s)
  else (r, s)

/-- The control point and the end of each of `2 ^ depth` plain curves. -/
def quads : Nat → Conic → List (Point × Point)
  | 0, q => [(q.b, q.c)]
  | depth + 1, q =>
    let (r, s) := q.splitInOrder
    quads depth r ++ quads depth s

def map (q : Conic) (t : Transform) : Conic := ⟨t.apply q.a, t.apply q.b, t.apply q.c, q.weight⟩

/-- The points of the square around the unit circle, from the right clockwise. -/
def compass : Array Point :=
  #[⟨1, 0⟩, ⟨1, 1⟩, ⟨0, 1⟩, ⟨-1, 1⟩, ⟨-1, 0⟩, ⟨-1, -1⟩, ⟨0, -1⟩, ⟨1, -1⟩]

/-- The arc from one direction to another, clockwise or not, mapped by a transformation. There is
none between equal directions. -/
def unitArc (start stop : Point) (clockwise : Bool) (t : Transform) : List Conic :=
  let x := start.dot stop
  let y := start.cross stop
  if y.abs ≤ tiny && x > 0 && (if clockwise then y ≥ 0 else y ≤ 0) then []
  else
    let y := if clockwise then y else -y
    let quadrant : Nat :=
      if y == 0 then 2
      else if x == 0 then if y > 0 then 1 else 3
      else (if y < 0 then 2 else 0) + if (x < 0) != (y < 0) then 1 else 0
    let corner := fun i => (compass[i % 8]?).getD .zero
    let whole := (List.range quadrant).map fun i =>
      (⟨corner (2 * i), corner (2 * i + 1), corner (2 * i + 2), halfRootTwo⟩ : Conic)
    let last := corner (2 * quadrant)
    let final : Point := ⟨x, y⟩
    let dot := last.dot final
    let rest : List Conic :=
      if dot < 1 then
        let half := ((1 + dot) / 2).sqrt
        let off := ((last + final).resize? (1 / half)).getD .zero
        if (last - off).hasDirection then [⟨last, off, final, half⟩] else []
      else []
    let turn : Transform := ⟨start.x, start.y, -start.y, start.x, 0, 0⟩
    let turn := if clockwise then turn else turn.after (.scaling 1 (-1))
    (whole ++ rest).map (·.map (t.after turn))

end Conic

namespace Path

def conicTo (path : Path) (b c : Point) (weight : Float32) : Path :=
  if !(weight > 0) then path.lineTo c
  else if !weight.isFinite then (path.lineTo b).lineTo c
  else if weight == 1 then path.quadTo b c
  else
    let path := path.opened
    let conic : Conic := ⟨(path.lastPoint?).getD .zero, b, c, weight⟩
    if conic.a.isFinite && b.isFinite && c.isFinite then
      (conic.quads conic.depth).foldl (fun path (b, c) => path.quadTo b c) path
    else path

def circle (path : Path) (centre : Point) (radius : Float32) : Path :=
  match Rect.ofSize? (centre.x - radius) (centre.y - radius) (radius + radius) (radius + radius) with
  | none => path
  | some r =>
    let x := r.left / 2 + r.right / 2
    let y := r.top / 2 + r.bottom / 2
    ((((((path.moveTo ⟨r.right, y⟩).conicTo ⟨r.right, r.bottom⟩ ⟨x, r.bottom⟩ halfRootTwo).conicTo
      ⟨r.left, r.bottom⟩ ⟨r.left, y⟩ halfRootTwo).conicTo ⟨r.left, r.top⟩ ⟨x, r.top⟩
      halfRootTwo).conicTo ⟨r.right, r.top⟩ ⟨r.right, y⟩ halfRootTwo)).close

end Path
end Iconsmith.Geometry
