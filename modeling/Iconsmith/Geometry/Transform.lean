import Iconsmith.Geometry.Rect

/-!
Affine maps of the plane. The coefficients are single-precision numbers; sums of two products are
computed with double precision and rounded once.
-/

namespace Iconsmith.Geometry

/-- The map to `(sx * x + kx * y + tx, ky * x + sy * y + ty)`. -/
structure Transform where
  sx : Float32
  ky : Float32
  kx : Float32
  sy : Float32
  tx : Float32
  ty : Float32
deriving BEq, Inhabited, Repr

namespace Transform

def identity : Transform := ⟨1, 0, 0, 1, 0, 0⟩

def shift (x y : Float32) : Transform := ⟨1, 0, 0, 1, x, y⟩

def scaling (x y : Float32) : Transform := ⟨x, 0, 0, y, 0, 0⟩

def ofRect (r : Rect) : Transform := ⟨r.width, 0, 0, r.height, r.left, r.top⟩

def isIdentity (t : Transform) : Bool := t == identity

def hasScale (t : Transform) : Bool := t.sx != 1 || t.sy != 1

def hasSkew (t : Transform) : Bool := t.kx != 0 || t.ky != 0

def hasOffset (t : Transform) : Bool := t.tx != 0 || t.ty != 0

def isShift (t : Transform) : Bool := !t.hasScale && !t.hasSkew

def apply (t : Transform) (p : Point) : Point :=
  if t.hasSkew then ⟨p.x * t.sx + p.y * t.kx + t.tx, p.x * t.ky + p.y * t.sy + t.ty⟩
  else if t.hasScale then ⟨p.x * t.sx + t.tx, p.y * t.sy + t.ty⟩
  else if t.hasOffset then ⟨p.x + t.tx, p.y + t.ty⟩
  else p

/-- `a * b + c * d`, rounded once. -/
def sumOfProducts (a b c d : Float32) : Float32 :=
  (a.toFloat * b.toFloat + c.toFloat * d.toFloat).toFloat32

/-- First the inner map, then the outer one. -/
def after (outer inner : Transform) : Transform :=
  if outer.isIdentity then inner
  else if inner.isIdentity then outer
  else if !outer.hasSkew && !inner.hasSkew then
    ⟨outer.sx * inner.sx, 0, 0, outer.sy * inner.sy, outer.sx * inner.tx + outer.tx,
      outer.sy * inner.ty + outer.ty⟩
  else
    ⟨sumOfProducts outer.sx inner.sx outer.kx inner.ky,
      sumOfProducts outer.ky inner.sx outer.sy inner.ky,
      sumOfProducts outer.sx inner.kx outer.kx inner.sy,
      sumOfProducts outer.ky inner.kx outer.sy inner.sy,
      sumOfProducts outer.sx inner.tx outer.kx inner.ty + outer.tx,
      sumOfProducts outer.ky inner.tx outer.sy inner.ty + outer.ty⟩

def isFinite (t : Transform) : Bool :=
  t.sx.isFinite && t.ky.isFinite && t.kx.isFinite && t.sy.isFinite && t.tx.isFinite &&
    t.ty.isFinite

/-- The lengths of the images of the two unit vectors. -/
def scales (t : Transform) : Float32 × Float32 :=
  ((t.sx * t.sx + t.ky * t.ky).sqrt, (t.kx * t.kx + t.sy * t.sy).sqrt)

/-- The map is finite and flattens no axis. -/
def isValid (t : Transform) : Bool :=
  let epsilon : Float32 := 1 / 8388608
  t.isFinite && !(t.scales.1.abs ≤ epsilon || t.scales.2.abs ≤ epsilon)

/-- A difference of two products, rounded once. -/
def differenceOfProducts (a b c d : Float32) : Float :=
  a.toFloat * b.toFloat - c.toFloat * d.toFloat

/-- The inverse of the determinant, if it is neither zero nor too small. -/
def inverseDeterminant? (t : Transform) : Option Float :=
  let det := differenceOfProducts t.sx t.sy t.kx t.ky
  let limit := tiny * tiny * tiny
  if det.toFloat32.abs ≤ limit then none else some (1 / det)

def inverse? (t : Transform) : Option Transform :=
  if t.isIdentity then some t
  else if !t.hasSkew then
    if t.hasScale then
      if t.sx == 0 || t.sy == 0 then none
      else
        let x := 1 / t.sx
        let y := 1 / t.sy
        some ⟨x, 0, 0, y, -t.tx * x, -t.ty * y⟩
    else some (shift (-t.tx) (-t.ty))
  else
    t.inverseDeterminant?.bind fun d =>
      let entry := fun a => (a * d).toFloat32
      let r : Transform :=
        ⟨entry t.sy.toFloat, entry (-t.ky).toFloat, entry (-t.kx).toFloat, entry t.sx.toFloat,
          entry (differenceOfProducts t.kx t.ty t.sy t.tx),
          entry (differenceOfProducts t.ky t.tx t.sx t.ty)⟩
      if r.isFinite then some r else none

def applyRect? (t : Transform) (r : Rect) : Option Rect :=
  if t.isIdentity then some r else Rect.ofPoints? (r.corners.map t.apply)

end Transform
end Iconsmith.Geometry
