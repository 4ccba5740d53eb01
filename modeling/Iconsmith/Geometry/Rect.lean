import Iconsmith.Geometry.Point

/-!
Upright rectangles, possibly without extent.
-/

namespace Iconsmith.Geometry

structure Rect where
  left : Float32
  top : Float32
  right : Float32
  bottom : Float32
deriving BEq, Inhabited, Repr

namespace Rect

/-- The rectangle with the given sides, if they are finite and in order. -/
def ofSides? (left top right bottom : Float32) : Option Rect :=
  if left.isFinite && top.isFinite && right.isFinite && bottom.isFinite && left ≤ right &&
      top ≤ bottom && (right - left).isFinite && (bottom - top).isFinite then
    some ⟨left, top, right, bottom⟩
  else none

def ofSize? (x y width height : Float32) : Option Rect := ofSides? x y (x + width) (y + height)

def width (r : Rect) : Float32 := r.right - r.left

def height (r : Rect) : Float32 := r.bottom - r.top

def hasArea (r : Rect) : Bool := r.left < r.right && r.top < r.bottom

/-- The rectangle, unless it has no area. -/
def nonempty? (r : Rect) : Option Rect := if r.hasArea then some r else none

def ofPoints? (points : Array Point) : Option Rect :=
  match points[0]? with
  | none => none
  | some p =>
    let r := points.foldl (fun r p => (⟨min r.left p.x, min r.top p.y, max r.right p.x,
      max r.bottom p.y⟩ : Rect)) ⟨p.x, p.y, p.x, p.y⟩
    if points.all Point.isFinite then ofSides? r.left r.top r.right r.bottom else none

def union (r s : Rect) : Rect :=
  ⟨min r.left s.left, min r.top s.top, max r.right s.right, max r.bottom s.bottom⟩

def union? : Option Rect → Option Rect → Option Rect
  | some r, some s => some (r.union s)
  | r, none => r
  | none, s => s

def outset? (r : Rect) (d : Float32) : Option Rect :=
  ofSides? (r.left - d) (r.top - d) (r.right + d) (r.bottom + d)

/-- The corners, clockwise from the left upper one. -/
def corners (r : Rect) : Array Point :=
  #[⟨r.left, r.top⟩, ⟨r.right, r.top⟩, ⟨r.right, r.bottom⟩, ⟨r.left, r.bottom⟩]

end Rect
end Iconsmith.Geometry
