import Iconsmith.Geometry.Bezier
import Iconsmith.Geometry.Path

/-!
Clipping the lines and curves around an area to a rectangle. What lies above or below is dropped;
what lies to the left or to the right moves to the side of the rectangle, so that the area inside
stays the same. The pieces that remain rise or fall throughout, and so do their `x` coordinates.
-/

namespace Iconsmith.Raster

open Iconsmith.Geometry
open Iconsmith.Geometry.Path (Piece)

namespace Clip

def pin (x a b : Float) : Float :=
  let low := if b < a then b else a
  let high := if b < a then a else b
  if x < low then low else if x > high then high else x

def crossY (p q : Point) (y : Float32) : Float32 :=
  if isTiny (q.y - p.y) then (p.x + q.x) * 0.5
  else
    let x₀ := p.x.toFloat
    let y₀ := p.y.toFloat
    let x₁ := q.x.toFloat
    (pin (x₀ + (y.toFloat - y₀) * (x₁ - x₀) / (q.y.toFloat - y₀)) x₀ x₁).toFloat32

def crossX (p q : Point) (x : Float32) : Float32 :=
  if isTiny (q.x - p.x) then (p.y + q.y) * 0.5
  else
    let x₀ := p.x.toFloat
    let y₀ := p.y.toFloat
    (y₀ + (x.toFloat - x₀) * (q.y.toFloat - y₀) / (q.x.toFloat - x₀)).toFloat32

def crossXWithin (p q : Point) (x : Float32) : Float32 :=
  (pin (crossX p q x).toFloat p.y.toFloat q.y.toFloat).toFloat32

def lineInY (clip : Rect) (p q : Point) : Point × Point :=
  let above := fun r : Point =>
    if r.y < clip.top then (⟨crossY p q clip.top, clip.top⟩ : Point) else r
  let below := fun r : Point =>
    if r.y > clip.bottom then (⟨crossY p q clip.bottom, clip.bottom⟩ : Point) else r
  if p.y < q.y then (above p, below q) else (below p, above q)

def chain : List Point → List Piece
  | p :: q :: rest => .line p q :: chain (q :: rest)
  | _ => []

def line (clip : Rect) (p q : Point) : List Piece :=
  if max p.y q.y ≤ clip.top || min p.y q.y ≥ clip.bottom then []
  else
    let (p, q) := lineInY clip p q
    let (left, right, reversed) := if p.x < q.x then (p, q, false) else (q, p, true)
    if right.x ≤ clip.left then [.line ⟨clip.left, p.y⟩ ⟨clip.left, q.y⟩]
    else if left.x ≥ clip.right then [.line ⟨clip.right, p.y⟩ ⟨clip.right, q.y⟩]
    else
      let start :=
        if left.x < clip.left then
          [⟨clip.left, left.y⟩, (⟨clip.left, crossXWithin p q clip.left⟩ : Point)]
        else [left]
      let finish :=
        if right.x > clip.right then
          [(⟨clip.right, crossXWithin p q clip.right⟩ : Point), ⟨clip.right, right.y⟩]
        else [right]
      let points := start ++ finish
      chain (if reversed then points.reverse else points)

/-- The part of a line inside a rectangle; lines on its border count as inside. -/
def lineInside? (clip : Rect) (p q : Point) : Option (Point × Point) :=
  let left := min p.x q.x
  let right := max p.x q.x
  let top := min p.y q.y
  let bottom := max p.y q.y
  let apart := fun a b extent : Float32 => a ≤ b && (a < b || extent > 0)
  if clip.left ≤ left && clip.top ≤ top && clip.right ≥ right && clip.bottom ≥ bottom then some (p, q)
  else if apart right clip.left (right - left) || apart clip.right left (right - left) ||
      apart bottom clip.top (bottom - top) || apart clip.bottom top (bottom - top) then none
  else
    let (r, s) := lineInY clip p q
    let beyond := max r.x s.x ≤ clip.left || min r.x s.x ≥ clip.right
    if beyond && (r.x != s.x || r.x < clip.left || r.x > clip.right) then none
    else
      let atLeft := fun t : Point =>
        if t.x < clip.left then (⟨clip.left, crossX p q clip.left⟩ : Point) else t
      let atRight := fun t : Point =>
        if t.x > clip.right then (⟨clip.right, crossX p q clip.right⟩ : Point) else t
      some (if r.x < s.x then (atLeft r, atRight s) else (atRight r, atLeft s))

def vertical (x y₀ y₁ : Float32) (reversed : Bool) : Piece :=
  if reversed then .line ⟨x, y₁⟩ ⟨x, y₀⟩ else .line ⟨x, y₀⟩ ⟨x, y₁⟩

def quadPiece (q : Quad) (reversed : Bool) : Piece :=
  if reversed then .quad q.c q.b q.a else .quad q.a q.b q.c

def cubicPiece (q : Cubic) (reversed : Bool) : Piece :=
  if reversed then .cubic q.d q.c q.b q.a else .cubic q.a q.b q.c q.d

/-- The parameter at which a curve that rises or falls throughout has a height. -/
def quadParameter? (q : Quad) (y : Float32) : Option Float32 :=
  (quadraticRoots (q.a.y - q.b.y - q.b.y + q.c.y) (2 * (q.b.y - q.a.y)) (q.a.y - y)).head?

/-- The part of a falling curve between two heights. -/
def quadInY (clip : Rect) (q : Quad) : Quad :=
  let q :=
    if q.a.y < clip.top then
      match quadParameter? q clip.top with
      | some t =>
        let s := (q.split t).2
        (⟨⟨s.a.x, clip.top⟩, ⟨s.b.x, max s.b.y clip.top⟩, q.c⟩ : Quad)
      | none =>
        let f := fun p : Point => (⟨p.x, if p.y < clip.top then clip.top else p.y⟩ : Point)
        ⟨f q.a, f q.b, f q.c⟩
    else q
  if q.c.y > clip.bottom then
    match quadParameter? q clip.bottom with
    | some t =>
      let r := (q.split t).1
      ⟨q.a, ⟨r.b.x, min r.b.y clip.bottom⟩, ⟨r.c.x, clip.bottom⟩⟩
    | none =>
      let f := fun p : Point => (⟨p.x, if p.y > clip.bottom then clip.bottom else p.y⟩ : Point)
      ⟨f q.a, f q.b, f q.c⟩
  else q

def quadAtRight (clip : Rect) (q : Quad) (reversed : Bool) : List Piece :=
  if q.c.x > clip.right then
    match quadParameter? q.transpose clip.right with
    | some t =>
      let (r, s) := q.split t
      let r : Quad := ⟨r.a, ⟨min r.b.x clip.right, r.b.y⟩, ⟨clip.right, r.c.y⟩⟩
      [quadPiece r reversed, vertical clip.right r.c.y s.c.y reversed]
    | none =>
      [quadPiece ⟨q.a, ⟨min q.b.x clip.right, q.b.y⟩, ⟨min q.c.x clip.right, q.c.y⟩⟩ reversed]
  else [quadPiece q reversed]

def quadMonotone (clip : Rect) (q : Quad) : List Piece :=
  let (q, reversed) := if q.a.y > q.c.y then ((⟨q.c, q.b, q.a⟩ : Quad), true) else (q, false)
  if q.c.y ≤ clip.top || q.a.y ≥ clip.bottom then []
  else
    let q := quadInY clip q
    let (q, reversed) := if q.a.x > q.c.x then ((⟨q.c, q.b, q.a⟩ : Quad), !reversed) else (q, reversed)
    if q.c.x ≤ clip.left then [vertical clip.left q.a.y q.c.y reversed]
    else if q.a.x ≥ clip.right then [vertical clip.right q.a.y q.c.y reversed]
    else if q.a.x < clip.left then
      match quadParameter? q.transpose clip.left with
      | some t =>
        let (r, s) := q.split t
        let rest : Quad := ⟨⟨clip.left, s.a.y⟩, ⟨max s.b.x clip.left, s.b.y⟩, q.c⟩
        vertical clip.left r.a.y r.c.y reversed :: quadAtRight clip rest reversed
      | none => [vertical clip.left q.a.y q.c.y reversed]
    else quadAtRight clip q reversed

def quad (clip : Rect) (q : Quad) : List Piece :=
  if min q.a.y (min q.b.y q.c.y) ≥ clip.bottom || max q.a.y (max q.b.y q.c.y) ≤ clip.top then []
  else
    q.monotone.flatMap fun r =>
      (r.transpose.monotone.map Quad.transpose).flatMap (quadMonotone clip)

/-- The parameter at which a cubic curve that rises or falls throughout takes a value on one axis,
by halving the range. -/
def cubicParameter (a b c d target : Float32) : Float :=
  let a := a.toFloat
  let b := b.toFloat
  let c := c.toFloat
  let d := d.toFloat
  let k₃ := d + 3 * (b - c) - a
  let k₂ := 3 * (c - 2 * b + a)
  let k₁ := 3 * (b - a)
  let rising := a < d
  let rec go : Nat → Float → Float → Float
    | 0, low, high => (low + high) / 2
    | n + 1, low, high =>
      let t := (low + high) / 2
      let y := ((k₃ * t + k₂) * t + k₁) * t + a
      if (y < target.toFloat) == rising then go n t high else go n low t
  go 60 0 1

/-- Cut a cubic curve with double precision. -/
def cutCubic (q : Cubic) (t : Float) : Cubic × Cubic :=
  let axis := fun a b c d : Float32 =>
    let mix := fun p q : Float => p + (q - p) * t
    let ab := mix a.toFloat b.toFloat
    let bc := mix b.toFloat c.toFloat
    let cd := mix c.toFloat d.toFloat
    let abc := mix ab bc
    let bcd := mix bc cd
    (ab.toFloat32, abc.toFloat32, (mix abc bcd).toFloat32, bcd.toFloat32, cd.toFloat32)
  let (x₁, x₂, x₃, x₄, x₅) := axis q.a.x q.b.x q.c.x q.d.x
  let (y₁, y₂, y₃, y₄, y₅) := axis q.a.y q.b.y q.c.y q.d.y
  (⟨q.a, ⟨x₁, y₁⟩, ⟨x₂, y₂⟩, ⟨x₃, y₃⟩⟩, ⟨⟨x₃, y₃⟩, ⟨x₄, y₄⟩, ⟨x₅, y₅⟩, q.d⟩)

def cutAtY (q : Cubic) (y : Float32) : Cubic × Cubic :=
  cutCubic q (cubicParameter q.a.y q.b.y q.c.y q.d.y y)

def cutAtX (q : Cubic) (x : Float32) : Cubic × Cubic :=
  cutCubic q (cubicParameter q.a.x q.b.x q.c.x q.d.x x)

def cubicInY (clip : Rect) (q : Cubic) : Cubic :=
  let q :=
    if q.a.y < clip.top then
      let s := (cutAtY q clip.top).2
      (⟨⟨s.a.x, clip.top⟩, ⟨s.b.x, max s.b.y clip.top⟩, s.c, q.d⟩ : Cubic)
    else q
  if q.d.y > clip.bottom then
    let r := (cutAtY q clip.bottom).1
    ⟨q.a, r.b, ⟨r.c.x, min r.c.y clip.bottom⟩, ⟨r.d.x, clip.bottom⟩⟩
  else q

def cubicMonotone (clip : Rect) (q : Cubic) : List Piece :=
  let (q, reversed) :=
    if q.a.y > q.d.y then ((⟨q.d, q.c, q.b, q.a⟩ : Cubic), true) else (q, false)
  if q.d.y ≤ clip.top || q.a.y ≥ clip.bottom then []
  else
    let q := cubicInY clip q
    let (q, reversed) :=
      if q.a.x > q.d.x then ((⟨q.d, q.c, q.b, q.a⟩ : Cubic), !reversed) else (q, reversed)
    if q.d.x ≤ clip.left then [vertical clip.left q.a.y q.d.y reversed]
    else if q.a.x ≥ clip.right then [vertical clip.right q.a.y q.d.y reversed]
    else
      let (before, q) :=
        if q.a.x < clip.left then
          let (r, s) := cutAtX q clip.left
          ([vertical clip.left r.a.y r.d.y reversed],
            (⟨⟨clip.left, s.a.y⟩, ⟨max s.b.x clip.left, s.b.y⟩, s.c, q.d⟩ : Cubic))
        else ([], q)
      if q.d.x > clip.right then
        let (r, s) := cutAtX q clip.right
        let r : Cubic := ⟨r.a, r.b, ⟨min r.c.x clip.right, r.c.y⟩, ⟨clip.right, r.d.y⟩⟩
        before ++ [cubicPiece r reversed, vertical clip.right r.d.y s.d.y reversed]
      else before ++ [cubicPiece q reversed]

/-- The coordinates are too large for cutting a curve. -/
def isHuge (r : Rect) : Bool :=
  let limit : Float32 := 4194304
  r.left < -limit || r.top < -limit || r.right > limit || r.bottom > limit

/-- Clip a cubic curve. A huge one is replaced by a line. -/
def cubic (clip : Rect) (q : Cubic) : List Piece :=
  match Rect.ofPoints? #[q.a, q.b, q.c, q.d] with
  | none => []
  | some r =>
    if r.bottom > clip.top && r.top < clip.bottom then
      if isHuge r then line clip q.a q.d
      else
        q.monotone.flatMap fun r =>
          (r.transpose.monotone.map Cubic.transpose).flatMap (cubicMonotone clip)
    else []

def piece (clip : Rect) : Piece → List Piece
  | .line p q => line clip p q
  | .quad p c q => quad clip ⟨p, c, q⟩
  | .cubic p c d q => cubic clip ⟨p, c, d, q⟩

end Clip
end Iconsmith.Raster
