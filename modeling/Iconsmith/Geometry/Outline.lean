import Iconsmith.Geometry.Bezier
import Iconsmith.Geometry.Conic
import Iconsmith.Geometry.Stroke

/-!
The area of a line along a path. Both sides of the line are drawn at once, the inner one backwards at
the end of a contour. The offset of a curve is approximated by quadratic curves that are refined until
they are as close as a quarter of a pixel. From the area follow the smallest upright rectangles around
paths and around the lines along them; the inner points of curves count only as far as the curve
reaches towards them.
-/

namespace Iconsmith.Geometry

namespace Outline

/-- What an angle between two normals amounts to. -/
inductive Angle where
  | line
  | shallow
  | sharp
  | opposite
deriving DecidableEq

/-- The kind of an angle, given the inner product of the unit normals. -/
def Angle.ofDot (dot : Float32) : Angle :=
  if dot ≥ 0 then if isTiny (1 - dot) then line else shallow
  else if isTiny (1 + dot) then opposite else sharp

/-- The second vector lies clockwise of the first. -/
def isClockwise (a b : Point) : Bool := a.x * b.y > a.y * b.x

/-- The inner side of a corner goes through the corner itself. -/
def innerJoin (pivot after : Point) (inner : Path) : Path :=
  (inner.lineTo pivot).lineTo (pivot - after)

/-- A corner between two segments, given by the unit normals before and after. -/
structure Corner where
  before : Point
  pivot : Point
  after : Point
  radius : Float32
  inverseLimit : Float32
  lineBefore : Bool
  lineAfter : Bool

def bevel (c : Corner) (outer inner : Path) : Path × Path :=
  let after := c.after.scale c.radius
  if isClockwise c.before c.after then
    (outer.lineTo (c.pivot + after), innerJoin c.pivot after inner)
  else
    (innerJoin c.pivot (-after) outer, inner.lineTo (c.pivot + -after))

def roundJoin (c : Corner) (outer inner : Path) : Path × Path :=
  if Angle.ofDot (c.before.dot c.after) == .line then (outer, inner)
  else
    let clockwise := isClockwise c.before c.after
    let before := if clockwise then c.before else -c.before
    let after := if clockwise then c.after else -c.after
    let arc := Conic.unitArc before after clockwise ⟨c.radius, 0, 0, c.radius, c.pivot.x, c.pivot.y⟩
    if arc.isEmpty then (outer, inner)
    else
      let draw := fun path : Path => arc.foldl (fun path q => path.conicTo q.b q.c q.weight) path
      let after := after.scale c.radius
      if clockwise then (draw outer, innerJoin c.pivot after inner)
      else (innerJoin c.pivot after outer, draw inner)

def cutMiter (c : Corner) (clips : Bool) (before mid after : Point) (lineAfter : Bool)
    (outer inner : Path) : Path × Path :=
  let wide := after.scale c.radius
  let outer :=
    if clips then
      let mid := (mid.unit?).getD .zero
      let cos := before.dot mid
      let sin := before.cross mid
      let x := if sin.abs ≤ tiny then 1 / c.inverseLimit else (1 / c.inverseLimit - cos) / sin
      let start := before.scale c.radius
      let first := c.pivot + start + start.turnRight.scale x
      let second := c.pivot + wide + wide.turnLeft.scale x
      ((if c.lineBefore then outer.setLastPoint first else outer.lineTo first).lineTo second)
    else outer
  let outer := if lineAfter then outer else outer.lineTo (c.pivot + wide)
  (outer, innerJoin c.pivot wide inner)

def fullMiter (c : Corner) (mid after : Point) (outer inner : Path) : Path × Path :=
  let after := after.scale c.radius
  let tip := c.pivot + mid
  let outer := if c.lineBefore then outer.setLastPoint tip else outer.lineTo tip
  let outer := if c.lineAfter then outer else outer.lineTo (c.pivot + after)
  (outer, innerJoin c.pivot after inner)

def miter (clips : Bool) (c : Corner) (outer inner : Path) : Path × Path :=
  let dot := c.before.dot c.after
  match Angle.ofDot dot with
  | .line => (outer, inner)
  | .opposite =>
    cutMiter c clips c.before ((c.after - c.before).scale (c.radius / 2)) c.after false outer inner
  | angle =>
    let counter := !isClockwise c.before c.after
    let before := if counter then -c.before else c.before
    let after := if counter then -c.after else c.after
    let swap := fun p : Path × Path => if counter then (p.2, p.1) else p
    let (outer, inner) := swap (outer, inner)
    swap <|
      if dot == 0 && c.inverseLimit ≤ 0.70710678118 then
        fullMiter c ((before + after).scale c.radius) after outer inner
      else
        let mid : Point :=
          if angle == .sharp then
            let m : Point := ⟨after.y - before.y, before.x - after.x⟩
            if counter then -m else m
          else before + after
        let sin := ((1 + dot) * 0.5).sqrt
        if sin < c.inverseLimit then cutMiter c clips before mid after false outer inner
        else fullMiter c ((mid.resize? (c.radius / sin)).getD .zero) after outer inner

/-- Draw a corner on both sides. -/
def join (j : Join) (c : Corner) (outer inner : Path) : Path × Path :=
  match j with
  | .bevel => bevel c outer inner
  | .round => roundJoin c outer inner
  | .miter => miter false c outer inner
  | .miterClip => miter true c outer inner

def cap (k : Cap) (pivot normal stop : Point) (afterLine : Bool) (path : Path) : Path :=
  let parallel := normal.turnRight
  match k with
  | .butt => path.lineTo stop
  | .round =>
    let centre := pivot + parallel
    (path.conicTo (centre + normal) centre halfRootTwo).conicTo (centre - normal) stop halfRootTwo
  | .square =>
    let first : Point := ⟨pivot.x + normal.x + parallel.x, pivot.y + normal.y + parallel.y⟩
    let second : Point := ⟨pivot.x - normal.x + parallel.x, pivot.y - normal.y + parallel.y⟩
    if afterLine then (path.setLastPoint first).lineTo second
    else ((path.lineTo first).lineTo second).lineTo stop

/-- The unit normal and the normal as long as the radius of a direction, if it is one. -/
def normals? (v : Point) (radius : Float32) : Option (Point × Point) :=
  v.unit?.map fun u => (u.turnLeft, u.turnLeft.scale radius)

/-- The square of the distance of a point from a line between two points. -/
def distanceToLine (p start finish : Point) : Float32 :=
  let v := finish - start
  let t := v.dot (p - start) / v.dot v
  if t ≥ 0 && t ≤ 1 then
    (⟨start.x * (1 - t) + finish.x * t, start.y * (1 - t) + finish.y * t⟩ : Point).distanceSquared p
  else p.distanceSquared start

/-- A curve as a function of its parameter: points and directions. -/
structure Curve where
  point : Float32 → Point
  direction : Float32 → Point

/-- The direction of a quadratic curve, or of its ends where it stands still. -/
def Curve.ofQuad (q : Quad) : Curve where
  point := q.eval
  direction t :=
    let v := q.tangent t
    if v.isZero then q.c - q.a else v

/-- The direction of a cubic curve, or of nearby points where it stands still. -/
def Curve.ofCubic (q : Cubic) : Curve where
  point := q.eval
  direction t :=
    let v := q.tangent t
    if !v.isZero then v
    else
      let (v, whole) :=
        if isTiny t then (q.c - q.a, q)
        else if isTiny (1 - t) then (q.d - q.b, q)
        else
          let r := (q.split t).1
          let v := r.d - r.c
          if v.isZero then (r.d - r.b, r) else (v, q)
      if v.isZero then whole.d - whole.a else v

/-- A quadratic approximation of a part of an offset curve; `from'` and `to'` are points in the
directions of the ends. -/
structure Approximation where
  quad : Quad
  tangentStart : Point
  tangentEnd : Point
  startT : Float32
  midT : Float32
  endT : Float32
  hasStart : Bool
  hasEnd : Bool
  opposite : Bool
deriving Inhabited

namespace Approximation

def blank (start finish : Float32) : Approximation :=
  { (default : Approximation) with
    startT := start, midT := clampUnit ((start + finish) * 0.5), endT := finish }

def hasMiddle (a : Approximation) : Bool := a.startT < a.midT && a.midT < a.endT

def firstHalf (a : Approximation) : Approximation :=
  let h := blank a.startT a.midT
  if h.hasMiddle then
    { h with quad := ⟨a.quad.a, .zero, .zero⟩, tangentStart := a.tangentStart, hasStart := true }
  else h

def secondHalf (a : Approximation) : Approximation :=
  let h := blank a.midT a.endT
  if h.hasMiddle then
    { h with quad := ⟨.zero, .zero, a.quad.c⟩, tangentEnd := a.tangentEnd, hasEnd := true }
  else h

end Approximation

inductive Verdict where
  /-- It must be refined. -/
  | split
  /-- A line is as good. -/
  | degenerate
  /-- It is close enough. -/
  | quad
deriving DecidableEq

/-- What is needed to judge an approximation. `side` is one for the outer and minus one for the inner
side, `error` the distance that is close enough. -/
structure Offset where
  curve : Curve
  radius : Float32
  side : Float32
  error : Float32

namespace Offset

/-- The point of the offset curve at a parameter, and a point in its direction. -/
def ray (o : Offset) (t : Float32) : Point × Point :=
  let p := o.curve.point t
  let v := ((o.curve.direction t).resize? o.radius).getD ⟨o.radius, 0⟩
  let q : Point := ⟨p.x + o.side * v.y, p.y - o.side * v.x⟩
  (q, q + v)

/-- Find the ends that are not known yet. -/
def ends (o : Offset) (a : Approximation) : Approximation :=
  let a :=
    if a.hasStart then a
    else
      let (p, t) := o.ray a.startT
      { a with quad := { a.quad with a := p }, tangentStart := t, hasStart := true }
  if a.hasEnd then a
  else
    let (p, t) := o.ray a.endT
    { a with quad := { a.quad with c := p }, tangentEnd := t, hasEnd := true }

/-- Let the tangents of the ends meet in the control point. -/
def meet (o : Offset) (a : Approximation) : Verdict × Approximation :=
  let start := a.quad.a
  let finish := a.quad.c
  let u := a.tangentStart - start
  let v := a.tangentEnd - finish
  let den := u.cross v
  if den == 0 || !den.isFinite then (.degenerate, { a with opposite := u.dot v < 0 })
  else
    let a := { a with opposite := false }
    let w := start - finish
    let numA := v.cross w
    let numB := u.cross w
    if (numA ≥ 0) == (numB ≥ 0) then
      let d := max (distanceToLine start finish a.tangentEnd)
        (distanceToLine finish start a.tangentStart)
      (if d ≤ o.error * o.error then .degenerate else .split, a)
    else
      let k := numA / den
      if k > k - 1 then
        (.quad, { a with quad := { a.quad with
          b := ⟨start.x * (1 - k) + a.tangentStart.x * k, start.y * (1 - k) + a.tangentStart.y * k⟩ } })
      else (.degenerate, { a with opposite := u.dot v < 0 })

/-- The curve turns by more than a right angle at its control point. -/
def isSharp (q : Quad) : Bool :=
  let u := q.b - q.a
  let v := q.b - q.c
  let (small, large) := if u.lengthSquared > v.lengthSquared then (v, u) else (u, v)
  match small.resize? large.lengthSquared with
  | none => false
  | some s => s.dot large > 0

def close (p q : Point) (limit : Float32) : Bool := p.distanceSquared q ≤ limit * limit

def inBounds (q : Quad) (p : Point) (margin : Float32) : Bool :=
  !(p.x + margin < min q.a.x (min q.b.x q.c.x)) && !(p.x - margin > max q.a.x (max q.b.x q.c.x)) &&
    !(p.y + margin < min q.a.y (min q.b.y q.c.y)) && !(p.y - margin > max q.a.y (max q.b.y q.c.y))

/-- The parameters where a line through two points meets a curve. -/
def crossings (p q : Point) (c : Quad) : List Float32 :=
  let v := q - p
  let f := fun r : Point => (r.y - p.y) * v.x - (r.x - p.x) * v.y
  let r₀ := f c.a
  let r₁ := f c.b
  quadraticRoots (f c.c + (r₀ - 2 * r₁)) (2 * (r₁ - r₀)) r₀

def closeEnough (o : Offset) (a : Approximation) : Verdict :=
  let (p, _) := o.ray a.midT
  let onCurve := o.curve.point a.midT
  let accept := if isSharp a.quad then Verdict.split else .quad
  if close p (a.quad.eval 0.5) o.error then accept
  else if !inBounds a.quad p o.error then .split
  else
    match crossings p onCurve a.quad with
    | [t] =>
      if close p (a.quad.eval t) (o.error * (1 - (t - 0.5).abs * 2)) then accept else .split
    | _ => .split

/-- Find the control point and judge the approximation. -/
def judge (o : Offset) (a : Approximation) : Verdict × Approximation :=
  match o.meet (o.ends a) with
  | (.quad, a) => (o.closeEnough a, a)
  | other => other

/-- Add the offset of a quadratic curve to a path; false if it cannot be done in `fuel` halvings. -/
def quads (o : Offset) : Nat → Approximation → Path → Bool × Path × Approximation
  | fuel, a, path =>
    match o.judge a, fuel with
    | (.quad, a), _ => (true, path.quadTo a.quad.b a.quad.c, a)
    | (.degenerate, a), _ => (true, path.lineTo a.quad.c, a)
    | (.split, a), 0 => (false, path, a)
    | (.split, a), fuel + 1 =>
      match quads o fuel a.firstHalf path with
      | (true, path, _) =>
        let (ok, path, _) := quads o fuel a.secondHalf path
        (ok, path, a)
      | (false, path, _) => (false, path, a)

/-- The middle of the offset curve lies on the line between its ends. -/
def isFlat (o : Offset) (a : Approximation) : Bool :=
  distanceToLine (o.ray a.midT).1 a.quad.a a.quad.c < o.error * o.error

/-- Add the offset of a part of a cubic curve to a path. `met` says that the tangents of some part
have met already; until then only 15 halvings are tried, later 78. -/
def cubics (o : Offset) : Nat → Nat → Bool → Approximation → Path → Bool × Bool × Path
  | fuel, depth, met, a, path =>
    let (done, met, a, path) :=
      if met then (false, true, a, path)
      else
        match o.meet (o.ends a) with
        | (.quad, a) => (false, true, a, path)
        | (verdict, a) =>
          if (verdict == .degenerate || close a.quad.a a.quad.c o.error) && o.isFlat a then
            (true, false, a, path.lineTo a.quad.c)
          else (false, false, a, path)
    if done then (true, met, path)
    else
      let (done, a, path) :=
        if met then
          match o.judge a with
          | (.quad, a) => (true, a, path.quadTo a.quad.b a.quad.c)
          | (.degenerate, a) =>
            if a.opposite then (false, a, path) else (true, a, path.lineTo a.quad.c)
          | (.split, a) => (false, a, path)
        else (false, a, path)
      if done then (true, met, path)
      else if !a.quad.c.x.isFinite then (false, met, path)
      else
        match fuel with
        | 0 => (false, met, path)
        | fuel + 1 =>
          if depth + 1 > (if met then 78 else 15) then (false, met, path)
          else
            let first := a.firstHalf
            if !first.hasMiddle then (true, met, path.lineTo a.quad.c)
            else
              match cubics o fuel (depth + 1) met first path with
              | (false, met, path) => (false, met, path)
              | (true, met, path) =>
                let second := a.secondHalf
                if !second.hasMiddle then (true, met, path.lineTo a.quad.c)
                else cubics o fuel (depth + 1) met second path

end Offset

/-- A curve that is no proper one. -/
inductive Reduction where
  | point
  | line
  /-- It runs to and fro on a line and turns at some points. -/
  | turns (points : List Point)
  | curve

def still (v : Point) : Bool := !v.hasDirection

/-- The pair of points that lie farthest apart on an axis, by their places, and how far. -/
def farthest (points : Array Point) : Nat × Nat × Float32 := Id.run do
  let mut best : Nat × Nat × Float32 := (0, 0, -1)
  for i in [0:points.size] do
    for j in [i + 1:points.size] do
      let v := (points[j]?).getD .zero - (points[i]?).getD .zero
      let d := max v.x.abs v.y.abs
      if best.2.2 < d then best := (i, j, d)
  return best

def areInLine (points : Array Point) (slop : Float32) : Bool :=
  let (i, j, d) := farthest points
  let get := fun k => (points[k]?).getD .zero
  (List.range points.size).all fun k =>
    k == i || k == j || distanceToLine (get k) (get i) (get j) ≤ d * d * slop

def reduceQuad (q : Quad) : Reduction :=
  let first := still (q.b - q.a)
  let second := still (q.c - q.b)
  if first && second then .point
  else if first || second then .line
  else if !areInLine #[q.a, q.b, q.c] 0.000005 then .curve
  else
    let t := q.bendiest
    if t == 0 || t == 1 then .line else .turns [q.eval t]

def reduceCubic (q : Cubic) : Reduction :=
  let count := [q.b - q.a, q.c - q.b, q.d - q.c].countP still
  if count == 3 then .point
  else if count == 2 then .line
  else if !areInLine #[q.a, q.b, q.c, q.d] 0.00001 then .curve
  else
    match (q.bendiest.filter fun t => 0 < t && t < 1).map q.eval |>.filter
        fun p => p != q.a && p != q.d with
    | [] => .line
    | points => .turns points

/-- The state of drawing both sides. `count` is the number of segments of the contour, less one
before its first move. -/
structure Pen where
  radius : Float32
  inverseLimit : Float32
  scale : Float32
  error : Float32
  cap : Cap
  join : Join
  firstNormal : Point
  firstUnit : Point
  normal : Point
  unit : Point
  first : Point
  here : Point
  firstOuter : Point
  outerStart : Nat
  count : Int
  lineBefore : Bool
  joined : Bool
  outer : Path
  inner : Path
  cusps : Path

namespace Pen

/-- Begin a segment in the direction of a point; none if there is no direction and ends are flat. -/
def begin? (s : Pen) (p : Point) (isLine : Bool) : Option (Pen × Point × Point) :=
  let found := normals? ((p - s.here).scale s.scale) s.radius
  match found, s.cap with
  | none, .butt => none
  | _, _ =>
    let (unit, normal) := found.getD (⟨1, 0⟩, ⟨s.radius, 0⟩)
    let s :=
      if s.count == 0 then
        let outer := s.here + normal
        { s with firstNormal := normal, firstUnit := unit, firstOuter := outer,
                 outer := s.outer.moveTo outer, inner := s.inner.moveTo (s.here - normal) }
      else
        let (outer, inner) := Outline.join s.join
          ⟨s.unit, s.here, unit, s.radius, s.inverseLimit, s.lineBefore, isLine⟩ s.outer s.inner
        { s with outer, inner }
    some ({ s with lineBefore := isLine }, unit, normal)

def finish (s : Pen) (p unit normal : Point) : Pen :=
  { s with joined := true, here := p, unit, normal, count := s.count + 1 }

def endContour (s : Pen) (closes isLine : Bool) : Pen :=
  let outer :=
    if s.count > 0 then
      let outer :=
        if closes then
          let (outer, inner) := Outline.join s.join
            ⟨s.unit, s.here, s.firstUnit, s.radius, s.inverseLimit, s.lineBefore, isLine⟩ s.outer
            s.inner
          let outer := outer.close.moveTo ((inner.lastPoint?).getD .zero)
          (outer.reverseTo inner).close
        else
          let outer := Outline.cap s.cap s.here s.normal ((s.inner.lastPoint?).getD .zero) isLine
            s.outer
          let outer := outer.reverseTo s.inner
          (Outline.cap s.cap s.first (-s.firstNormal) s.firstOuter s.lineBefore outer).close
      outer.append s.cusps
    else s.outer
  { s with outer, inner := .empty, cusps := .empty, count := -1, outerStart := outer.points.size }

def moveTo (s : Pen) (p : Point) : Pen :=
  let s := if s.count > 0 then s.endContour false false else s
  { s with count := 0, first := p, here := p, joined := false }

/-- Draw along a line. `later` says that a longer segment follows in the contour. -/
def lineTo (s : Pen) (p : Point) (later : Bool) : Pen :=
  let short := s.here.isNear p (tiny * s.error)
  if short && (s.cap == .butt || s.joined || later) then s
  else
    match s.begin? p true with
    | none => s
    | some (s, unit, normal) =>
      let s := { s with outer := s.outer.lineTo (p + normal), inner := s.inner.lineTo (p - normal) }
      s.finish p unit normal

/-- Draw to points on a line, round where the direction turns. -/
def turnTo (s : Pen) (points : List Point) (p : Point) : Pen :=
  match points with
  | [] => s.lineTo p false
  | q :: rest =>
    let s := s.lineTo q false
    let kind := s.join
    let s := (rest ++ [p]).foldl (fun s q => s.lineTo q false) { s with join := .round }
    { s with join := kind }

/-- Add the offset of a curve to both sides. -/
def offset (s : Pen) (add : Float32 → Path → Path) : Pen :=
  { s with outer := add 1 s.outer, inner := add (-1) s.inner }

def quadTo (s : Pen) (c p : Point) : Pen :=
  let q : Quad := ⟨s.here, c, p⟩
  match reduceQuad q with
  | .point => s.lineTo p false
  | .line => s.lineTo p false
  | .turns points => s.turnTo points p
  | .curve =>
    match s.begin? c false with
    | none => s.lineTo p false
    | some (s, unit, normal) =>
      let s := s.offset fun side path =>
        (Offset.quads ⟨.ofQuad q, s.radius, side, s.error⟩ 33 (.blank 0 1) path).2.1
      let (unit, normal) := (normals? ((p - c).scale s.scale) s.radius).getD (unit, normal)
      s.finish p unit normal

/-- The normals at the end of a cubic curve, or the given ones if it has none. -/
def endNormals (s : Pen) (q : Cubic) (unit normal : Point) : Point × Point :=
  let start := q.b - q.a
  let finish := q.d - q.c
  if still start && still finish then (unit, normal)
  else
    let start := if still start then q.c - q.a else start
    let finish := if still finish then q.d - q.b else finish
    if still start || still finish then (unit, normal)
    else (normals? finish s.radius).getD (unit, normal)

def cubicTo (s : Pen) (c d p : Point) : Pen :=
  let q : Cubic := ⟨s.here, c, d, p⟩
  match reduceCubic q with
  | .point => s.lineTo p false
  | .line => s.lineTo p false
  | .turns points => s.turnTo points p
  | .curve =>
    match s.begin? (if still (q.b - q.a) then d else c) false with
    | none => s.lineTo p false
    | some (s, unit, normal) =>
      let cuts := q.inflections
      let parts := (0 :: cuts).zip (cuts ++ [1])
      let s := s.offset fun side path => parts.foldl (fun path (start, finish) =>
        (Offset.cubics ⟨.ofCubic q, s.radius, side, s.error⟩ 78 0 false (.blank start finish)
          path).2.2) path
      let s := match q.cusp? with
        | some t => { s with cusps := s.cusps.circle (q.eval t) s.radius }
        | none => s
      let (unit, normal) := s.endNormals q unit normal
      s.finish p unit normal

/-- All points from a place on are the same. -/
def isStill (path : Path) (start : Nat) : Bool :=
  let points := path.points
  match points[start]? with
  | none => true
  | some p => (points.toList.drop (start + 1)).all (· == p)

/-- Close a contour. One without extent gets ends of its own unless they are flat. -/
def close (s : Pen) (isLine : Bool) : Pen × Bool :=
  if s.cap != .butt && s.count == 0 then (s.lineTo s.first false, true)
  else if s.cap != .butt && isStill s.inner 0 && isStill s.outer s.outerStart then (s, true)
  else (s.endContour true isLine, isLine)

def curveFollows : List Segment → Bool
  | .line _ :: rest => curveFollows rest
  | .quad c p :: rest => if c == p then curveFollows rest else true
  | .cubic c d p :: rest => if c == p && d == p then curveFollows rest else true
  | _ => false

/-- Draw along the steps of a path. Closing a contour away from its start draws a line first. -/
def draw : List Segment → Pen → Bool → Pen × Bool
  | [], s, isLine => (s, isLine)
  | step :: rest, s, isLine =>
    match step with
    | .move p => draw rest (s.moveTo p) isLine
    | .line p => draw rest (s.lineTo p (curveFollows rest)) true
    | .quad c p => draw rest (s.quadTo c p) false
    | .cubic c d p => draw rest (s.cubicTo c d p) false
    | .close =>
      let (s, isLine) := s.close isLine
      draw rest s isLine

end Pen

/-- Put a line in front of each closing that is away from the start of its contour. -/
def closed : List Segment → Point → Point → List Segment
  | [], _, _ => []
  | .close :: rest, start, here =>
    if here == start then .close :: closed rest start start
    else .line start :: .close :: closed rest start start
  | .move p :: rest, _, _ => .move p :: closed rest p p
  | s :: rest, start, here => s :: closed rest start ((s.finish?).getD here)

end Outline

/-- The area of a line along a path at a resolution; none if there is none. -/
def Path.outline? (path : Path) (stroke : Stroke) (resolution : Float32) : Option Path :=
  if !isPositive stroke.width then none
  else
    let join := if stroke.join == .miter && stroke.miterLimit ≤ 1 then Join.bevel else stroke.join
    let inverseLimit :=
      if join == .miter || join == .miterClip then 1 / stroke.miterLimit else 0
    let pen : Outline.Pen :=
      { radius := stroke.width * 0.5, inverseLimit, scale := resolution,
        error := 1 / (resolution * 4), cap := stroke.cap, join, firstNormal := .zero,
        firstUnit := .zero, normal := .zero, unit := .zero, first := .zero, here := .zero,
        firstOuter := .zero, outerStart := 0, count := -1, lineBefore := false, joined := false,
        outer := .empty, inner := .empty, cusps := .empty }
    let (pen, isLine) := Outline.Pen.draw (Outline.closed path.segments.toList .zero .zero) pen false
    (pen.endContour false isLine).outer.drawable?

def Quad.turns (a b c : Float32) : List Float32 := (properFraction? (a - b) (a - b - b + c)).toList

def Cubic.turns (a b c d : Float32) : List Float32 :=
  quadraticRoots (d - a + 3 * (b - c)) (2 * (a - b - b + c)) (b - a)

namespace Path

/-- The point where a step begins, the outermost points that its curve reaches, and its end. -/
def reach (here : Point) : Segment → List Point
  | .move p => [p]
  | .line p => [p]
  | .quad c p =>
    let q : Quad := ⟨here, c, p⟩
    (Quad.turns here.x c.x p.x ++ Quad.turns here.y c.y p.y).map q.eval ++ [p]
  | .cubic c d p =>
    let q : Cubic := ⟨here, c, d, p⟩
    (Cubic.turns here.x c.x d.x p.x ++ Cubic.turns here.y c.y d.y p.y).map q.eval ++ [p]
  | .close => []

def tightBounds? (path : Path) : Option Rect :=
  match path.points[0]? with
  | none => none
  | some first =>
    let widen (r : Rect) (p : Point) : Rect :=
      ⟨min r.left p.x, min r.top p.y, max r.right p.x, max r.bottom p.y⟩
    let (r, _) := path.segments.foldl (fun (r, here) s =>
      ((reach here s).foldl widen r, (s.finish?).getD here)) (⟨first.x, first.y, first.x, first.y⟩, first)
    Rect.ofSides? r.left r.top r.right r.bottom

/-- The smallest rectangle around the line along a path; dashes do not make it smaller. -/
def strokeBounds? (path : Path) (stroke : Stroke) : Option Rect :=
  (path.outline? { stroke with dash := none } 1).bind tightBounds?

end Path
end Iconsmith.Geometry
