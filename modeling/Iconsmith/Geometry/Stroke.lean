import Iconsmith.Geometry.Transform

/-!
How the line along a path is drawn.
-/

namespace Iconsmith.Geometry

/-- The shape of the ends of a line. -/
inductive Cap where
  | butt
  | round
  | square
deriving DecidableEq, Repr

/-- The shape of the corners of a line. -/
inductive Join where
  | miter
  /-- A mitre that is cut off where it is too long. -/
  | miterClip
  | round
  | bevel
deriving DecidableEq, Repr

/-- Lengths of dashes and gaps in turn, and where in the pattern the line begins. -/
structure DashPattern where
  lengths : List Float32
  offset : Float32
deriving Repr

structure Stroke where
  width : Float32
  miterLimit : Float32
  cap : Cap
  join : Join
  dash : Option DashPattern
deriving Repr

namespace Stroke

/-- How much a map enlarges lines. -/
def resolution (t : Transform) : Float32 :=
  let x := (⟨t.sx, t.kx⟩ : Point).length
  let y := (⟨t.ky, t.sy⟩ : Point).length
  if x.isFinite && y.isFinite && max x y > 0 then max x y else 1

end Stroke
end Iconsmith.Geometry
