import Iconsmith.Raster.Clip
import Iconsmith.Raster.Edge

/-!
Which pixels of a grid an area covers, and how much of each. For a smooth border every pixel is
taken as four by four cells: a row of cells adds up to a quarter of full coverage, the last row one
step less, so that a full pixel has coverage 255.
-/

namespace Iconsmith.Raster

open Iconsmith.Geometry

/-- What counts as inside of a path that crosses itself. -/
inductive FillRule where
  /-- The path winds around the point. -/
  | nonzero
  /-- The path crosses a ray from the point an odd number of times. -/
  | evenOdd
deriving DecidableEq, Repr

namespace FillRule

def inside (rule : FillRule) (winding : Int32) : Bool :=
  match rule with
  | nonzero => winding != 0
  | evenOdd => winding % 2 != 0

end FillRule

/-- A stretch of a scan line: the first column and the one behind the last. -/
structure Span where
  left : Nat
  right : Nat
deriving Repr

namespace Area

/-- The column where an edge crosses the current line. -/
def column (e : Edge) : Nat := (Dot16.round e.x).toInt.toNat

/-- The inner stretches of a line, given its edges from left to right. What is still open at the end
reaches to `limit`. -/
def spans (rule : FillRule) (limit : Nat) : List Edge → Int32 → Nat → List Span
  | [], w, left => if rule.inside w && left < limit then [⟨left, limit⟩] else []
  | e :: rest, w, left =>
    let x := column e
    let left := if rule.inside w then left else x
    let w := w + e.winding
    if !rule.inside w && left < x then ⟨left, x⟩ :: spans rule limit rest w left
    else spans rule limit rest w left

/-- Put an edge in front of the first one that it does not come behind. -/
def insert (le : Edge → Edge → Bool) (e : Edge) : List Edge → List Edge
  | [] => [e]
  | f :: rest => if le e f then e :: f :: rest else f :: insert le e rest

/-- Order edges; those of the same rank stay as they are. -/
def arrange (le : Edge → Edge → Bool) (edges : List Edge) : List Edge := edges.foldr (insert le) []

def fromLeft (e f : Edge) : Bool := e.x ≤ f.x

/-- The order by the first line, on each line from left to right. -/
def fromTop (e f : Edge) : Bool := e.first < f.first || (e.first == f.first && e.x ≤ f.x)

/-- The edges that cross the next line. -/
def advance (y : Int32) (edges : List Edge) : List Edge :=
  arrange fromLeft
    (edges.filterMap fun e => if e.last == y then none else some { e with x := e.x + e.step })

/-- Visit the inner stretches of `count` lines from `y` on. `pending` are the edges below, ordered by
their first line. -/
def sweep {σ : Type} (rule : FillRule) (limit : Nat) (visit : σ → Nat → Span → σ) :
    Nat → Int32 → List Edge → List Edge → σ → σ
  | 0, _, _, _, s => s
  | count + 1, y, active, pending, s =>
    let (starting, pending) := pending.span fun e => e.first ≤ y
    let active := if starting.isEmpty then active else arrange fromLeft (active ++ starting)
    let s := (spans rule limit active 0 0).foldl (fun s span => visit s y.toInt.toNat span) s
    sweep rule limit visit count (y + 1) (advance y active) pending s

/-- The edges of a piece that may turn back. -/
def edges (shift : Nat) : Path.Piece → List Edge
  | .line p q => Edge.ofLine shift p q
  | .quad p c q => (Quad.monotone ⟨p, c, q⟩).flatMap (Edge.ofQuad shift)
  | .cubic p c d q => (Cubic.monotone ⟨p, c, d, q⟩).flatMap (Edge.ofCubic shift)

def plainEdges (shift : Nat) : Path.Piece → List Edge
  | .line p q => Edge.ofLine shift p q
  | .quad p c q => Edge.ofQuad shift ⟨p, c, q⟩
  | .cubic p c d q => Edge.ofCubic shift ⟨p, c, d, q⟩

/-- The edges of a path by their first line. -/
def edgesOf (path : Path) (clip? : Option Rect) (shift : Nat) : List Edge :=
  let pieces := path.pieces.toList
  arrange fromTop (match clip? with
    | none => pieces.flatMap (edges shift)
    | some clip => (pieces.flatMap (Clip.piece clip)).flatMap (plainEdges shift))

/-- Visit the inner stretches of a path on a grid that is `2 ^ shift` times finer than that of
`width` by `height` pixels, in the pixel rows from `top` to `bottom`. -/
def scan {σ : Type} (path : Path) (rule : FillRule) (width height : Nat) (top bottom : Int)
    (contained : Bool) (shift : Nat) (visit : σ → Nat → Span → σ) (s : σ) : σ :=
  let clip? : Option Rect :=
    if contained then none else some ⟨0, 0, Float32.ofNat width, Float32.ofNat height⟩
  let edges := edgesOf path clip? shift
  if edges.length < 2 then s
  else
    let scale : Int := (1 <<< shift : Nat)
    let first := if contained then top * scale else max (top * scale) 0
    let stop := if contained then bottom * scale else min (bottom * scale) (height * scale)
    if first < 0 then s
    else
      sweep rule (width * (1 <<< shift)) visit (stop - first).toNat (Int32.ofInt first) [] edges s

/-- The coverage of the pixels of one row, from column `left` on. -/
structure Row where
  y : Nat
  left : Nat
  alpha : ByteArray

/-- Add to the coverage of a pixel; just above the full coverage counts as full. -/
@[inline]
def Row.add (alpha : ByteArray) (x : Nat) (amount : UInt8) : ByteArray :=
  let sum := (alpha.get! x).toNat + amount.toNat
  alpha.set! x (UInt8.ofNat (sum - sum / 256))

def Row.addMany (amount : UInt8) : Nat → Nat → ByteArray → ByteArray
  | 0, _, alpha => alpha
  | count + 1, x, alpha => Row.addMany amount count (x + 1) (Row.add alpha x amount)

/-- Add a stretch of cells to the coverage of a row of pixels. -/
def Row.addSpan (alpha : ByteArray) (y start stop : Nat) : ByteArray :=
  let part := fun cells : Nat => UInt8.ofNat (cells * 16)
  let first := start / 4
  let last := stop / 4
  if first == last then Row.add alpha first (part (stop % 4 - start % 4))
  else
    let head := if start % 4 = 0 then 0 else 4 - start % 4
    let alpha := if head = 0 then alpha else Row.add alpha first (part head)
    let middle := if head = 0 then first else first + 1
    let full : UInt8 := if y % 4 = 3 then 63 else 64
    let alpha := Row.addMany full (last - middle) middle alpha
    if stop % 4 = 0 then alpha
    else alpha.set! last (alpha.get! last + part (stop % 4))

/-- A row that is being filled, and what came of the rows before. -/
structure Progress (σ : Type) where
  row : Option Row
  result : σ

def zeros (n : Nat) : ByteArray := ⟨Array.replicate n 0⟩

/-- Visit the rows of coverage of an area on a grid of `width` by `height` pixels, from the top. -/
def smooth {σ : Type} (path : Path) (rule : FillRule) (width height : Nat) (visit : σ → Row → σ)
    (s : σ) : σ :=
  match path.bounds? with
  | none => s
  | some b =>
    let left := Binary32.floor b.left
    let top := Binary32.floor b.top
    let right := Binary32.ceil b.right
    let bottom := Binary32.ceil b.bottom
    let first := (max left 0).toNat
    let last := (min right width).toNat
    let contained := 0 ≤ left ∧ 0 ≤ top ∧ right ≤ width ∧ bottom ≤ height
    if last ≤ first ∨ min bottom height ≤ max top 0 then s
    else
      let count := last - first
      let step := fun (p : Progress σ) (y : Nat) (span : Span) =>
        let p := match p.row with
          | some row =>
            if row.y = y / 4 then p
            else (⟨some ⟨y / 4, first, zeros (count + 1)⟩, visit p.result row⟩ : Progress σ)
          | none => ⟨some ⟨y / 4, first, zeros (count + 1)⟩, p.result⟩
        match p with
        | ⟨some row, result⟩ =>
          let left := if span.left < 4 * first then 0 else span.left - 4 * first
          let right := if span.left < 4 * first then span.right else span.right - 4 * first
          ⟨some { row with alpha := Row.addSpan row.alpha y left (min right (4 * count)) }, result⟩
        | p => p
      let p := scan path rule width height top bottom contained 2 step ⟨none, s⟩
      match p.row with
      | some row => visit p.result row
      | none => p.result

/-- Visit the rows of an area with a hard border: a pixel is covered if its centre is inside. -/
def hard {σ : Type} (path : Path) (rule : FillRule) (width height : Nat) (visit : σ → Row → σ)
    (s : σ) : σ :=
  match path.bounds? with
  | none => s
  | some b =>
    let bias : Float := 0.5 + 1.5 / 64
    let down := fun x : Float32 => (x.toFloat - bias).ceil.toInt32.toInt
    let up := fun x : Float32 => (x.toFloat + bias).floor.toInt32.toInt
    let contained := 0 ≤ down b.left ∧ 0 ≤ down b.top ∧ up b.right ≤ width ∧ up b.bottom ≤ height
    let step := fun (s : σ) (y : Nat) (span : Span) =>
      visit s ⟨y, span.left, ⟨Array.replicate (span.right - span.left) 255⟩⟩
    scan path rule width height (down b.top) (up b.bottom) contained 0 step s

end Area
end Iconsmith.Raster
