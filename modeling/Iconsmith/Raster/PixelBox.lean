import Iconsmith.Geometry.Rect
import Iconsmith.Raster.Layer

/-!
Rectangles of whole pixels, anywhere in the plane.
-/

namespace Iconsmith.Raster

open Iconsmith.Geometry

structure PixelBox where
  x : Int
  y : Int
  width : Nat
  height : Nat
deriving DecidableEq, Repr

namespace PixelBox

/-- The column behind the last one. -/
def right (b : PixelBox) : Int := b.x + b.width

/-- The row behind the last one. -/
def bottom (b : PixelBox) : Int := b.y + b.height

def ofSides? (left top right bottom : Int) : Option PixelBox :=
  if left < right ∧ top < bottom then
    some ⟨left, top, (right - left).toNat, (bottom - top).toNat⟩
  else none

def inter? (b c : PixelBox) : Option PixelBox :=
  ofSides? (max b.x c.x) (max b.y c.y) (min b.right c.right) (min b.bottom c.bottom)

def relativeTo (b : PixelBox) (x y : Int) : PixelBox := { b with x := b.x - x, y := b.y - y }

/-- Whole pixels for a rectangle: the corner is rounded down, the sides are rounded up. -/
def ofRect (r : Rect) : PixelBox :=
  ⟨r.left.floor.toInt32.toInt, r.top.floor.toInt32.toInt, max 1 r.width.ceil.toUInt32.toNat,
    max 1 r.height.ceil.toUInt32.toNat⟩

end PixelBox

namespace Layer

def box (l : Layer) : PixelBox := ⟨0, 0, l.width, l.height⟩

def crop? (l : Layer) (b : PixelBox) : Option Layer :=
  (l.box.inter? b).map fun c =>
    .ofFn c.width c.height fun x y => l.lanes (x + c.x.toNat) (y + c.y.toNat)

def keepWithin (l : Layer) (b : PixelBox) : Layer :=
  l.mapIdx fun n c =>
    let x : Int := n % l.width
    let y : Int := n / l.width
    if b.x ≤ x ∧ x < b.right ∧ b.y ≤ y ∧ y < b.bottom then c else .clear

end Layer
end Iconsmith.Raster
