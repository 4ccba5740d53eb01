import Iconsmith.Geometry.Bezier
import Iconsmith.Geometry.Path
import Iconsmith.Geometry.Remainder
import Iconsmith.Geometry.Stroke

/-!
Cutting a path into dashes. The length along a curve is measured on lines that stay close to it.
-/

namespace Iconsmith.Geometry

namespace Dash

/-- A dash pattern with its state at the start of a contour: the number of the first interval and what
is left of it. -/
structure Cycle where
  lengths : Array Float32
  total : Float32
  first : Nat
  left : Float32

/-- Where the pattern begins, between zero and its length. -/
def phase (offset total : Float32) : Float32 :=
  let rest := fun x : Float32 => (remainder x.toFloat total.toFloat).toFloat32
  if offset < 0 then
    let back := if -offset > total then rest (-offset) else -offset
    if total - back == total then 0 else total - back
  else if offset ≥ total then rest offset
  else offset

/-- The interval at a distance, and what is left of it. -/
def interval (offset : Float32) : List Float32 → Nat → Option (Nat × Float32)
  | [], _ => none
  | gap :: rest, i =>
    if offset > gap || (offset == gap && gap != 0) then interval (offset - gap) rest (i + 1)
    else some (i, gap - offset)

/-- A pattern that can be followed: an even number of lengths, none negative, not all zero. -/
def cycle? (p : DashPattern) : Option Cycle :=
  let total := p.lengths.foldl (· + ·) 0
  if !p.offset.isFinite || p.lengths.length < 2 || p.lengths.length % 2 != 0 ||
      p.lengths.any (· < 0) || !isPositive total then none
  else
    let (first, left) := (interval (phase p.offset total) p.lengths 0).getD
      (0, (p.lengths.head?).getD 0)
    some ⟨p.lengths.toArray, total, first, left⟩

/-- A line of a contour; `index` is the number of its piece, which it follows up to the parameter
`t`. -/
structure Mark where
  distance : Float32
  index : Nat
  t : Float32
deriving Inhabited

structure Contour where
  pieces : Array Path.Piece
  marks : Array Mark
  length : Float32
  isClosed : Bool
deriving Inhabited

/-- The greatest parameter, which stands for one. -/
def maxT : Nat := 0x3FFFFFFF

def fraction (t : Nat) : Float32 := Float32.ofNat t * (1 / Float32.ofNat maxT)

def mark (marks : Array Mark) (distance d : Float32) (index t : Nat) : Array Mark × Float32 :=
  if distance + d > distance then (marks.push ⟨distance + d, index, fraction t⟩, distance + d)
  else (marks, distance + d)

/-- Measure a quadratic curve; it is halved while it strays from a line. -/
def measureQuad (tolerance : Float32) (index : Nat) : Nat → Quad → Nat → Nat →
    Array Mark × Float32 → Array Mark × Float32
  | fuel, q, low, high, (marks, distance) =>
    let dx := q.b.x * 0.5 - (q.a.x + q.c.x) * 0.5 * 0.5
    let dy := q.b.y * 0.5 - (q.a.y + q.c.y) * 0.5 * 0.5
    match fuel with
    | fuel + 1 =>
      if (high - low) / 1024 ≠ 0 ∧ max dx.abs dy.abs > tolerance then
        let (r, s) := q.split 0.5
        let mid := (low + high) / 2
        measureQuad tolerance index fuel s mid high
          (measureQuad tolerance index fuel r low mid (marks, distance))
      else mark marks distance (q.a - q.c).length index high
    | 0 => mark marks distance (q.a - q.c).length index high

/-- Measure a cubic curve; it is halved while it strays from a line. -/
def measureCubic (tolerance : Float32) (index : Nat) : Nat → Cubic → Nat → Nat →
    Array Mark × Float32 → Array Mark × Float32
  | fuel, q, low, high, (marks, distance) =>
    let strays := fun (p : Point) (t : Float32) =>
      let r := q.a.lerp q.d t
      max (r.x - p.x).abs (r.y - p.y).abs > tolerance
    match fuel with
    | fuel + 1 =>
      if (high - low) / 1024 ≠ 0 ∧ (strays q.b (1 / 3) ∨ strays q.c (2 / 3)) then
        let (r, s) := q.split 0.5
        let mid := (low + high) / 2
        measureCubic tolerance index fuel s mid high
          (measureCubic tolerance index fuel r low mid (marks, distance))
      else mark marks distance (q.a - q.d).length index high
    | 0 => mark marks distance (q.a - q.d).length index high

structure Gauge where
  pieces : Array Path.Piece
  marks : Array Mark
  distance : Float32
  start : Point
  here : Point

/-- Add a piece if it has a length. -/
def Gauge.add (g : Gauge) (tolerance : Float32) (piece : Path.Piece) (finish : Point) : Gauge :=
  let index := g.pieces.size
  let (marks, distance) := match piece with
    | .line p q => mark g.marks g.distance (p - q).length index maxT
    | .quad p c q => measureQuad tolerance index 20 ⟨p, c, q⟩ 0 maxT (g.marks, g.distance)
    | .cubic p c d q => measureCubic tolerance index 20 ⟨p, c, d, q⟩ 0 maxT (g.marks, g.distance)
  if distance > g.distance then
    { g with pieces := g.pieces.push piece, marks, distance, here := finish }
  else { g with marks, distance, here := finish }

def Gauge.contour (g : Gauge) (closes : Bool) : Contour :=
  if closes then
    let last := match g.pieces.back? with
      | some (.line _ q) => q
      | some (.quad _ _ q) => q
      | some (.cubic _ _ _ q) => q
      | none => g.start
    let g := g.add 0 (.line last g.start) g.start
    ⟨g.pieces, g.marks, g.distance, true⟩
  else ⟨g.pieces, g.marks, g.distance, false⟩

def contours (tolerance : Float32) : List Segment → Option Gauge → List Contour
  | [], g => (g.map fun g => g.contour false).toList
  | s :: rest, g =>
    match s with
    | .move p =>
      (g.map fun g => g.contour false).toList ++
        contours tolerance rest (some ⟨#[], #[], 0, p, p⟩)
    | .close => (g.map fun g => g.contour true).toList ++ contours tolerance rest none
    | .line p =>
      contours tolerance rest (g.map fun g => g.add tolerance (.line g.here p) p)
    | .quad c p =>
      contours tolerance rest (g.map fun g => g.add tolerance (.quad g.here c p) p)
    | .cubic c d p =>
      contours tolerance rest (g.map fun g => g.add tolerance (.cubic g.here c d p) p)

def locate? (c : Contour) (distance : Float32) : Option (Mark × Float32) :=
  (c.marks.findIdx? fun m => m.distance ≥ distance).bind fun i =>
    let m := (c.marks[i]?).getD default
    let before := if i = 0 then none else c.marks[i - 1]?
    let d := (before.map Mark.distance).getD 0
    let t := match before with
      | some b => if b.index = m.index then b.t else 0
      | none => 0
    let t := t + (m.t - t) * (distance - d) / (m.distance - d)
    if 0 ≤ t && t ≤ 1 then some (m, t) else none

def pointOf (p : Path.Piece) (t : Float32) : Point :=
  match p with
  | .line p q => p.lerp q t
  | .quad p c q => (⟨p, c, q⟩ : Quad).eval t
  | .cubic p c d q => (⟨p, c, d, q⟩ : Cubic).eval t

/-- Keep a parameter away from the ends. -/
def proper (t : Float32) : Float32 := clamp 1.1920929e-7 (1 - 1.1920929e-7) t

def drawPart (p : Path.Piece) (start stop : Float32) (path : Path) : Path :=
  if start == stop then
    match path.lastPoint? with
    | some p => path.lineTo p
    | none => path
  else
    let rest := (stop - start) / (1 - start)
    match p with
    | .line p q => path.lineTo (if stop == 1 then q else p.lerp q stop)
    | .quad p c q =>
      let q : Quad := ⟨p, c, q⟩
      let q := if start == 0 then q else (q.split (proper start)).2
      let q := if stop == 1 then q else (q.split (proper (if start == 0 then stop else rest))).1
      path.quadTo q.b q.c
    | .cubic p c d q =>
      let q : Cubic := ⟨p, c, d, q⟩
      let q := if start == 0 then q else (q.split (proper start)).2
      let q := if stop == 1 then q else (q.split (proper (if start == 0 then stop else rest))).1
      path.cubicTo q.b q.c q.d

def drawBetween (c : Contour) (start stop : Float32) (moves : Bool) (path : Path) : Path :=
  let start := if start < 0 then 0 else start
  let stop := if stop > c.length then c.length else stop
  if !(start ≤ stop) then path
  else
    match locate? c start, locate? c stop with
    | some (m, t), some (n, u) =>
      let piece := fun i => (c.pieces[i]?).getD default
      let path := if moves then path.moveTo (pointOf (piece m.index) t) else path
      if m.index = n.index then drawPart (piece m.index) t u path
      else
        let path := drawPart (piece m.index) t 1 path
        let path := (List.range (n.index - m.index - 1)).foldl
          (fun path i => drawPart (piece (m.index + 1 + i)) 0 1 path) path
        drawPart (piece n.index) 0 u path
    | _, _ => path

/-- Draw the dashes of a contour. `i` is the number of the interval, `d` its length; `skip` leaves out
the first dash. The answer says whether the last interval is a dash that was drawn. -/
def drawAll (k : Cycle) (c : Contour) : Nat → Nat → Float32 → Float32 → Bool → Bool → Path →
    Path × Bool
  | 0, _, _, _, _, added, path => (path, added)
  | fuel + 1, i, distance, d, skip, added, path =>
    if !(distance < c.length) then (path, added)
    else
      let draws := i % 2 = 0 ∧ !skip
      let path := if draws then drawBetween c distance (distance + d) true path else path
      let next := if i + 1 = k.lengths.size then 0 else i + 1
      drawAll k c fuel next (distance + d) ((k.lengths[next]?).getD 0) false (decide draws) path

/-- Draw the dashes of some contours; none if there are more than a million. -/
def drawContours (k : Cycle) : List Contour → Float32 → Path → Option Path
  | [], _, path => some path
  | c :: rest, count, path =>
    let count := count + c.length * Float32.ofNat (k.lengths.size / 2) / k.total
    if !c.length.isFinite then some path
    else if count > 1000000 then none
    else
      let fuel := (c.length / k.total).ceil.toUInt32.toNat * k.lengths.size + 2 * k.lengths.size + 2
      let (path, added) := drawAll k c fuel k.first 0 k.left c.isClosed false path
      let path :=
        if c.isClosed && k.first % 2 = 0 && k.left ≥ 0 then drawBetween c 0 k.left (!added) path
        else path
      drawContours k rest count path

end Dash

/-- The dashes of a path at a resolution; none if there are none or too many. -/
def Path.dashed? (path : Path) (k : Dash.Cycle) (resolution : Float32) : Option Path :=
  (Dash.drawContours k (Dash.contours (0.5 * (1 / resolution)) path.segments.toList none) 0
    .empty).bind Path.drawable?

end Iconsmith.Geometry
