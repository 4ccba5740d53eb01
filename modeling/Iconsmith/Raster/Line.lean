import Iconsmith.Geometry.Dash
import Iconsmith.Geometry.Outline
import Iconsmith.Geometry.Stroke
import Iconsmith.Raster.Paint

/-!
Drawing lines along paths. Lines that would be at most a pixel wide are drawn one pixel wide and
fainter: such a line is followed along its longer axis; in each column or row two pixels share the
coverage by how close they are. Curves are drawn as chains of lines.
-/

namespace Iconsmith.Raster

open Iconsmith.Geometry

namespace Hairline

/-- A rectangle of pixels; the right and the lower side lie outside. -/
structure Box where
  left : Int32
  top : Int32
  right : Int32
  bottom : Int32
deriving Repr

structure Target where
  box : Box
  blend : Blender

/-- Blend a pixel if it lies in the box. -/
@[inline]
def plot (t : Target) (l : Layer) (x y : Int32) (alpha : UInt8) : Layer :=
  if t.box.left ≤ x ∧ x < t.box.right ∧ t.box.top ≤ y ∧ y < t.box.bottom then
    t.blend l x.toInt.toNat y.toInt.toNat alpha
  else l

def part (alpha : UInt8) (share : Dot6) : UInt8 := UInt8.ofNat (alpha.toNat * share.toInt.toNat / 64)

/-- A line that is followed along one axis: at `main` the other coordinate is `cross`, which grows by
`slope`. `steep` lines are followed downwards, others to the right; `level` ones do not grow. -/
structure Track where
  steep : Bool
  level : Bool
  slope : Dot16

/-- Blend two neighbours across a track. `cross` is the place between them. -/
@[inline]
def pair (t : Target) (k : Track) (l : Layer) (main cross : Int32) (share : Dot6) : Layer :=
  let low := cross >>> 16
  let a := UInt8.ofNat ((cross >>> 8).toInt.toNat % 256)
  let near := part a share
  let other := part (255 - a) share
  let at' := fun (l : Layer) (c : Int32) (alpha : UInt8) =>
    if k.steep then plot t l c main alpha else plot t l main c alpha
  if k.level then at' (at' l low near) (low - 1) other
  else
    let low := if low < 1 then 0 else low - 1
    at' (at' l low other) (low + 1) near

/-- Follow a track for `count` steps. -/
def follow (t : Target) (k : Track) : Nat → Int32 → Dot16 → Layer → Layer × Dot16
  | 0, _, cross, l => (l, cross)
  | count + 1, main, cross, l =>
    let cross := if cross < 0 then 0 else cross
    follow t k count (main + 1) (cross + k.slope) (pair t k l main cross 64)

/-- Draw along a track from `start` to `stop` with partial coverage at both ends. -/
def trace (t : Target) (k : Track) (start stop : Int32) (cross : Dot16) (first last : Dot6)
    (l : Layer) : Layer :=
  let cap := fun (l : Layer) (main : Int32) (cross : Dot16) (share : Dot6) =>
    let c := cross + Dot16.half
    let c := if c < 0 then 0 else c
    (pair t k l main c share, c + k.slope - Dot16.half)
  let (l, cross) := cap l start cross first
  let count := (stop - start - 1 - (if last > 0 then 1 else 0)).toInt.toNat
  let (l, cross) :=
    if count = 0 then (l, cross)
    else
      let (l, c) := follow t k count (start + 1) (cross + Dot16.half) l
      (l, c - Dot16.half)
  if last > 0 then (cap l (stop - 1) cross last).1 else l

/-- The part of the pixel before an end that a line covers, in sixty-fourths. -/
def contribution (x : Dot6) : Dot6 := ((x - 1) &&& 63) + 1

def short (t : Target) (clipped : Bool) (x₀ y₀ x₁ y₁ : Dot6) (l : Layer) : Layer :=
  let abs := fun n : Int32 => if n < 0 then -n else n
  let steep := !(abs (x₁ - x₀) > abs (y₁ - y₀))
  let (m₀, c₀, m₁, c₁) := if steep then (y₀, x₀, y₁, x₁) else (x₀, y₀, x₁, y₁)
  let (m₀, c₀, m₁, c₁) := if m₀ > m₁ then (m₁, c₁, m₀, c₀) else (m₀, c₀, m₁, c₁)
  if m₀ == m₁ then l
  else
    let start := Dot6.floor m₀
    let stop := Dot6.ceil m₁
    let level := c₀ == c₁
    let slope : Dot16 := if level then 0 else ((c₁ - c₀) <<< 16) / (m₁ - m₀)
    let cross := Dot6.widen c₀
    let cross := if level then cross else cross + ((slope * (32 - (m₀ &&& 63)) + 32) >>> 6)
    let single := stop - start == 1
    let first := if single then m₁ - m₀ else 64 - (m₀ &&& 63)
    let last := if single then 0 else m₁ &&& 63
    let k : Track := ⟨steep, level, slope⟩
    if !clipped then trace t k start stop cross first last l
    else
      let low := if steep then t.box.top else t.box.left
      let high := if steep then t.box.bottom else t.box.right
      if start ≥ high ∨ stop ≤ low then l
      else
        let (start, cross, first, last) :=
          if start < low then
            let cross := cross + slope * (low - start)
            if stop - low == 1 then (low, cross, contribution m₁, 0) else (low, cross, 64, last)
          else (start, cross, first, last)
        let (stop, last) := if stop > high then (high, 0) else (stop, last)
        if start == stop then l else trace t k start stop cross first last l

/-- Draw a line between two points given in sixty-fourths; long ones are halved. -/
def segment (t : Target) (clipped : Bool) : Nat → Dot6 → Dot6 → Dot6 → Dot6 → Layer → Layer
  | 0, x₀, y₀, x₁, y₁, l => short t clipped x₀ y₀ x₁ y₁ l
  | fuel + 1, x₀, y₀, x₁, y₁, l =>
    let abs := fun n : Int32 => if n < 0 then -n else n
    if abs (x₁ - x₀) > 511 * 64 ∨ abs (y₁ - y₀) > 511 * 64 then
      let x := (x₀ >>> 1) + (x₁ >>> 1)
      let y := (y₀ >>> 1) + (y₁ >>> 1)
      segment t clipped fuel x y x₁ y₁ (segment t clipped fuel x₀ y₀ x y l)
    else short t clipped x₀ y₀ x₁ y₁ l

def line (t : Target) (p q : Point) (l : Layer) : Layer :=
  let bound : Rect := ⟨-32767, -32767, 32767, 32767⟩
  let around : Rect := ⟨-1, -1, Float32.ofNat l.width + 1, Float32.ofNat l.height + 1⟩
  match (Clip.lineInside? bound p q).bind fun (p, q) => Clip.lineInside? around p q with
  | none => l
  | some (p, q) =>
    let x₀ := Dot6.ofFloat p.x
    let y₀ := Dot6.ofFloat p.y
    let x₁ := Dot6.ofFloat q.x
    let y₁ := Dot6.ofFloat q.y
    let left := Dot6.floor (min x₀ x₁) - 1
    let top := Dot6.floor (min y₀ y₁) - 1
    let right := Dot6.ceil (max x₀ x₁) + 1
    let bottom := Dot6.ceil (max y₀ y₁) + 1
    let b := t.box
    if right ≤ b.left ∨ b.right ≤ left ∨ bottom ≤ b.top ∨ b.bottom ≤ top then l
    else if b.left ≤ left ∧ b.top ≤ top ∧ right ≤ b.right ∧ bottom ≤ b.bottom then
      segment t false 16 x₀ y₀ x₁ y₁ l
    else
      let box : Box := ⟨max left b.left, max top b.top, min right b.right, min bottom b.bottom⟩
      segment { t with box } true 16 x₀ y₀ x₁ y₁ l

def chain (t : Target) : List Point → Layer → Layer
  | p :: q :: rest, l => chain t (q :: rest) (line t p q l)
  | _, l => l

/-- Points on a curve at equal steps of the parameter, its ends included. -/
def sampled (eval : Float32 → Point) (first last : Point) (count : Nat) : List Point :=
  let step := 1 / Float32.ofNat count
  let rec go : Nat → Float32 → List Point
    | 0, _ => [last]
    | n + 1, t =>
      let t := t + step
      eval t :: go n t
  first :: go (count - 1) 0

def quadChain (q : Quad) : List Point :=
  let dx := ((q.a.x + q.c.x) * 0.5 - q.b.x).abs.ceil.toInt32.toInt.toNat
  let dy := ((q.a.y + q.c.y) * 0.5 - q.b.y).abs.ceil.toInt32.toInt.toNat
  let d := if dx > dy then dx + dy / 2 else dy + dx / 2
  sampled q.eval q.a q.c (1 <<< min 5 ((Edge.bitLength d + 1) / 2))

def cubicPart (q : Cubic) : List Point :=
  let third : Float32 := 1 / 3
  let two : Float32 := 2 / 3
  let gap := fun a b c d : Float32 =>
    max (b - (third * d + two * a)).abs (c - (third * a + two * d)).abs
  let d := max (gap q.a.x q.b.x q.c.x q.d.x) (gap q.a.y q.b.y q.c.y q.d.y)
  let rec go : Nat → Float32 → Nat
    | 0, _ => 0
    | n + 1, limit => if d < limit then 0 else 1 + go n (limit * 4)
  let depth := go 9 (1 / 8)
  if depth = 0 then [q.a, q.d]
  else
    let points := sampled q.eval q.a q.d (1 <<< depth)
    if points.all Point.isFinite then points else []

/-- All angles between the ends of a curve and its inner points are at most right ones. -/
def isNice (q : Cubic) : Bool :=
  let acute := fun p pivot r : Point => (p - pivot).dot (r - pivot) ≥ 0
  acute q.b q.a q.d && acute q.c q.a q.d && acute q.b q.d q.a && acute q.c q.d q.a

/-- Draw a cubic curve, cut where it bends most. -/
def cubic (t : Target) (q : Cubic) (l : Layer) : Layer :=
  let parts :=
    if isNice q then [q] else q.splitMany (q.bendiest.filter fun u => 0 < u && u < 1)
  parts.foldl (fun l part => chain t (cubicPart part) l) l

/-- Move the first points of a curve outwards, all those that are equal to the first one. -/
def extendStart (reach : Float32) (still : Point) (points : List Point) : List Point :=
  match points with
  | [] => []
  | p :: rest =>
    let equal := rest.takeWhile fun q => (p - q).isZero
    match rest.drop equal.length with
    | q :: more =>
      let v := ((p - q).unit?).getD (p - q)
      (p :: equal).map (· + v.scale reach) ++ q :: more
    | [] => (p + still.scale reach) :: rest

/-- Extend the ends of a contour to make up for its caps. -/
def extend (k : Cap) (atStart atEnd : Bool) (points : List Point) : List Point :=
  let reach : Float32 := if k == .square then 0.5 else 0.392699081698724
  let points := if atStart then extendStart reach ⟨1, 0⟩ points else points
  if atEnd then (extendStart reach ⟨-1, 0⟩ points.reverse).reverse else points

/-- Draw along the steps of a path. `start` and `here` are the first and the last point of the
contour, `fresh` says that it has only begun. Points that make up for caps move the first point, but
never the last one; closing a contour leaves both where they are. -/
def walk (t : Target) (k : Cap) : List Segment → Point → Point → Bool → Layer → Layer
  | [], _, _, _, l => l
  | s :: rest, start, here, fresh, l =>
    let ending := match rest.head? with
      | none => true
      | some (.move _) => true
      | some .close => true
      | _ => false
    let adjust := fun points : List Point =>
      if k == .butt then points else extend k fresh ending points
    let origin := fun (points : List Point) =>
      if k != .butt && fresh then (points.head?).getD here else start
    match s with
    | .move p => walk t k rest p p true l
    | .line p =>
      let points := adjust [here, p]
      walk t k rest (origin points) p false (chain t points l)
    | .quad c p =>
      let points := adjust [here, c, p]
      let l := match points with
        | [a, b, c] => chain t (quadChain ⟨a, b, c⟩) l
        | _ => l
      walk t k rest (origin points) p false l
    | .cubic c d p =>
      let points := adjust [here, c, d, p]
      let l := match points with
        | [a, b, c, d] => cubic t ⟨a, b, c, d⟩ l
        | _ => l
      walk t k rest (origin points) p false l
    | .close =>
      let points := if k != .butt && fresh then extend k fresh ending [here, start] else [here, start]
      walk t k rest start here false (chain t points l)

end Hairline

namespace Layer

/-- Draw a line one pixel wide along a path. Nothing is drawn on layers of at most two columns or rows
if the line reaches beyond them. -/
def hairline (l : Layer) (path : Path) (k : Cap) (blend : Blender) : Layer :=
  let margin : Float32 := if k == .butt then 1 else 2
  match path.bounds?.bind (·.outset? margin) with
  | none => l
  | some b =>
    let x := b.left.floor.toInt32.toInt
    let y := b.top.floor.toInt32.toInt
    let right := x + max 1 b.width.ceil.toInt32.toInt
    let bottom := y + max 1 b.height.ceil.toInt32.toInt
    let contained := 0 ≤ x ∧ 0 ≤ y ∧ right ≤ l.width ∧ bottom ≤ l.height
    if right ≤ 0 ∨ bottom ≤ 0 ∨ (l.width : Int) ≤ x ∨ (l.height : Int) ≤ y then l
    else if ¬contained ∧ (l.width ≤ 2 ∨ l.height ≤ 2) then l
    else
      let box : Hairline.Box := ⟨0, 0, Int32.ofNat l.width, Int32.ofNat l.height⟩
      Hairline.walk ⟨box, blend⟩ k path.segments.toList .zero .zero false l

end Layer

def roughLength (p : Point) : Float32 :=
  let x := p.x.abs
  let y := p.y.abs
  if x < y then y + x * 0.5 else x + y * 0.5

/-- How much of a pixel a thin line covers; none if it is thicker. -/
def thinness? (width : Float32) (t : Transform) : Option Float32 :=
  let t := { t with tx := 0, ty := 0 }
  let x := roughLength (t.apply ⟨width, 0⟩)
  let y := roughLength (t.apply ⟨0, width⟩)
  if x ≤ 1 && y ≤ 1 then some ((x + y) * 0.5) else none

namespace Layer

def strokeThin (l : Layer) (path : Path) (cap : Cap) (paint : Paint) (t : Transform)
    (coverage : Float32) : Layer :=
  let brush :=
    if coverage == 1 || !paint.mode.scalesSource then paint.brush
    else
      let alpha := (255 * (coverage * 256).toInt32) >>> 8
      paint.brush.fade (alpha.toFloat32 / 255)
  match { paint with brush := brush.map t }.blender? with
  | none => l
  | some blend => l.hairline (path.map t) cap blend

def strokePath (l : Layer) (path : Path) (stroke : Stroke) (paint : Paint) (t : Transform) : Layer :=
  let resolution := Stroke.resolution t
  let path? := match stroke.dash.bind Dash.cycle? with
    | none => some path
    | some k => path.dashed? k resolution
  match path? with
  | none => l
  | some path =>
    match if paint.smooth then thinness? stroke.width t else none with
    | some coverage => l.strokeThin path stroke.cap paint t coverage
    | none =>
      match path.outline? stroke resolution with
      | none => l
      | some outline => l.fillPath outline .nonzero paint t

end Layer
end Iconsmith.Raster
