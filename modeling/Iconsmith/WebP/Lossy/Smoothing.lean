import Iconsmith.WebP.Lossy.Plane

/-!
Smoothing the edges between blocks, and stronger between squares. An edge is left alone where the
image itself has one.
-/

namespace Iconsmith.WebP.Lossy

/-- How much samples may differ for an edge to be smoothed. -/
structure Limits where
  /-- Across the edge. -/
  edge : Int
  /-- Between neighbours on one side. -/
  inner : Int
  /-- Between the two samples next to the edge on one side, for the edge to be smoothed widely. -/
  variance : Int

def clampSigned (n : Int) : Int := max (-128) (min n 127)

/-- A line of samples across an edge: the place of the first sample behind it, and the distance from
sample to sample. -/
structure Crossing where
  place : Nat
  step : Nat

namespace Crossing

/-- The sample behind the edge with a number; those before it have negative numbers. -/
@[inline]
def sample (c : Crossing) (a : Array UInt8) (i : Int) : Int :=
  (((a[((c.place : Int) + i * (c.step : Nat)).toNat]?).getD 0).toNat : Nat)

/-- A sample counted from the middle of the range. -/
@[inline]
def signed (c : Crossing) (a : Array UInt8) (i : Int) : Int := c.sample a i - 128

@[inline]
def put (c : Crossing) (i : Int) (v : Int) (a : Array UInt8) : Array UInt8 :=
  a.setIfInBounds ((c.place : Int) + i * (c.step : Nat)).toNat (clampSigned v + 128).toNat.toUInt8

def gap (c : Crossing) (a : Array UInt8) (i j : Int) : Int := (c.sample a i - c.sample a j).natAbs

/-- The step at the edge is small enough to be smoothed. -/
def isLow (c : Crossing) (a : Array UInt8) (limit : Int) : Bool :=
  c.gap a (-1) 0 * 2 + c.gap a (-2) 1 / 2 ≤ limit

/-- The step at the edge and all steps beside it are small enough to be smoothed. -/
def isFlat (c : Crossing) (a : Array UInt8) (l : Limits) : Bool :=
  c.isLow a l.edge &&
    [-4, -3, -2, 0, 1, 2].all fun i => c.gap a i (i + 1) ≤ l.inner

def isVaried (c : Crossing) (a : Array UInt8) (l : Limits) : Bool :=
  l.variance < c.gap a (-2) (-1) || l.variance < c.gap a 1 0

/-- Move the two samples at the edge towards each other. `wide` counts those behind them too. By how
much the one behind the edge moved is given with the samples. -/
def approach (c : Crossing) (wide : Bool) (a : Array UInt8) : Int × Array UInt8 :=
  let p := c.signed a (-1)
  let q := c.signed a 0
  let outer := if wide then clampSigned (c.signed a (-2) - c.signed a 1) else 0
  let d := clampSigned (outer + 3 * (q - p))
  let forth := clampSigned (d + 4) / 8
  (forth, c.put (-1) (p + clampSigned (d + 3) / 8) (c.put 0 (q - forth) a))

def simple (c : Crossing) (limit : Int) (a : Array UInt8) : Array UInt8 :=
  if c.isLow a limit then (c.approach true a).2 else a

/-- Smooth an edge between blocks. -/
def narrow (c : Crossing) (l : Limits) (a : Array UInt8) : Array UInt8 :=
  if !c.isFlat a l then a
  else
    let isVaried := c.isVaried a l
    let p := c.signed a (-2)
    let q := c.signed a 1
    let (forth, a) := c.approach isVaried a
    let d := (forth + 1) / 2
    if isVaried then a else c.put 1 (q - d) (c.put (-2) (p + d) a)

/-- Smooth an edge between squares. -/
def wide (c : Crossing) (l : Limits) (a : Array UInt8) : Array UInt8 :=
  if !c.isFlat a l then a
  else if c.isVaried a l then (c.approach true a).2
  else
    let w := clampSigned (clampSigned (c.signed a (-2) - c.signed a 1) +
      3 * (c.signed a 0 - c.signed a (-1)))
    [(0, 27), (1, 18), (2, 9)].foldl (fun a (i, share) =>
      let d := clampSigned ((share * w + 63) / 128)
      c.put (-1 - i) (c.signed a (-1 - i) + d) (c.put i (c.signed a i - d) a)) a

end Crossing

namespace Plane

/-- Apply a smoothing to an edge of `length` samples. The edge is upright, with its upper end at the
place, or lies there. -/
def smoothEdge (p : Plane) (upright : Bool) (x y length : Nat)
    (f : Crossing → Array UInt8 → Array UInt8) : Plane :=
  { p with samples := (List.range length).foldl (fun a i =>
      if upright then f ⟨(y + i) * p.width + x, 1⟩ a else f ⟨y * p.width + x + i, p.width⟩ a) p.samples }

end Plane

/-- The planes of an image: brightness, and two colour differences. -/
structure Planes where
  luma : Plane
  blue : Plane
  red : Plane

def Smoothing.levelOf (s : Smoothing) (kind : Int) (hasBlocks : Bool) : Nat :=
  if s.level = 0 then 0
  else (max 0 (min 63 (kind + s.bonus.1 + if hasBlocks then s.bonus.2 else 0))).toNat

def Smoothing.innerOf (s : Smoothing) (level : Nat) : Nat :=
  let n := if s.sharpness = 0 then level
    else min (level >>> (if 4 < s.sharpness then 2 else 1)) (9 - s.sharpness)
  max 1 n

/-- Smooth the edges of a square and those inside it, if it is `divided`. First come upright edges,
then those that lie. -/
def Planes.smoothSquare (p : Planes) (s : Smoothing) (level mx my : Nat) (divided : Bool) : Planes :=
  if level = 0 then p
  else
    let inner := s.innerOf level
    let variance : Int := if 40 ≤ level then 2 else if 15 ≤ level then 1 else 0
    let outerLimits : Limits := ⟨(2 * (level + 2) + inner : Nat), inner, variance⟩
    let innerLimits : Limits := ⟨(2 * level + inner : Nat), inner, variance⟩
    let outer (c : Crossing) (a : Array UInt8) : Array UInt8 :=
      if s.isSimple then c.simple outerLimits.edge a else c.wide outerLimits a
    let within (c : Crossing) (a : Array UInt8) : Array UInt8 :=
      if s.isSimple then c.simple innerLimits.edge a else c.narrow innerLimits a
    let edges (p : Plane) (side : Nat) (upright isFirst : Bool) : Plane :=
      let x := mx * side
      let y := my * side
      let p := if isFirst then p else p.smoothEdge upright x y side outer
      if !divided then p
      else
        (List.range (side / 4 - 1)).foldl (fun p k =>
          let d := 4 * (k + 1)
          p.smoothEdge upright (if upright then x + d else x) (if upright then y else y + d) side
            within) p
    let plane (p : Plane) (side : Nat) : Plane :=
      edges (edges p side true (mx = 0)) side false (my = 0)
    if s.isSimple then { p with luma := plane p.luma 16 }
    else ⟨plane p.luma 16, plane p.blue 8, plane p.red 8⟩

end Iconsmith.WebP.Lossy
