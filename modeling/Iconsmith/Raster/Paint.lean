import Iconsmith.Raster.Area
import Iconsmith.Raster.Blend
import Iconsmith.Raster.Gradient
import Iconsmith.Raster.Texture

/-!
Painting on a layer. A brush gives each pixel a colour; the coverage of the pixel decides how much of
the colour is blended with what is there.
-/

namespace Iconsmith.Raster

open Iconsmith.Geometry

inductive Brush where
  | solid (color : Rgba)
  | gradient (g : Gradient)
  | texture (t : Texture)

namespace Brush

/-- Move a brush along with what is painted. -/
def map (b : Brush) (t : Transform) : Brush :=
  match b with
  | solid c => solid c
  | gradient g => gradient { g with place := t.after g.place }
  | texture x => texture { x with place := t.after x.place }

def fade (b : Brush) (opacity : Float32) : Brush :=
  match b with
  | solid c => solid (c.fade opacity)
  | gradient g => gradient (g.fade opacity)
  | texture x => texture { x with opacity := min (max (x.opacity * opacity) 0) 1 }

end Brush

structure Paint where
  brush : Brush
  mode : BlendMode
  smooth : Bool

/-- A function that blends a pixel, given its column, its row and its coverage. -/
abbrev Blender := Layer → Nat → Nat → UInt8 → Layer

namespace Blender

/-- Blend in 255ths. -/
@[inline]
def coarse (mode : BlendMode) (color : Nat → Nat → Lanes) : Blender := fun l x y alpha =>
  if alpha == 0 then l
  else
    let s := color x y
    if alpha == 255 then
      if mode == .source then l.set x y s else l.set x y (mode.applyLanes s (l.lanes x y))
    else
      let k := alpha.toUInt32
      let d := l.lanes x y
      if mode.scalesSource then l.set x y (mode.applyLanes (s.scale k) d)
      else
        l.set x y (Lanes.zip (fun d r => Lanes.share (d * (255 - k) + r * k)) d
          (mode.applyLanes s d))

/-- Blend as fractions. `partly` is the colour of pixels that are covered in part. -/
@[inline]
def fine (mode : BlendMode) (whole : Nat → Nat → Rgba) (partly : Nat → Nat → Float32 → Rgba) :
    Blender := fun l x y alpha =>
  if alpha == 0 then l
  else if alpha == 255 then
    let s := whole x y
    if mode == .source then l.setRgba x y s else l.setRgba x y (mode.apply s (l.rgba x y))
  else
    let k := alpha.toFloat32 * (1 / 255)
    let s := partly x y k
    let d := l.rgba x y
    if mode.scalesSource then l.setRgba x y (mode.apply (s.map (· * k)) d)
    else l.setRgba x y (Rgba.zip (fun d r => (r - d) * k + d) d (mode.apply s d))

end Blender

namespace Paint

/-- The blender of a paint. A colour without transparency replaces what is there. There is none if
the brush cannot be seen. -/
def blender? (p : Paint) : Option Blender :=
  let mode := fun solid : Bool => if solid && p.mode == .sourceOver then .source else p.mode
  match p.brush with
  | .solid c =>
    let s := Lanes.round c.premultiply
    some (Blender.coarse (mode (c.a == 1)) fun _ _ => s)
  | .gradient g =>
    g.ready?.map fun ready =>
      let solid := match g.ramp with
        | .linear => g.isSolid
        | _ => false
      if g.coarse then Blender.coarse (mode solid) ready.lanes
      else Blender.fine (mode solid) ready.rgba fun x y _ => ready.rgba x y
  | .texture t =>
    t.ready?.map fun ready =>
      if t.opacity == 1 then Blender.fine p.mode ready.rgba fun x y _ => ready.rgba x y
      else
        Blender.fine p.mode (fun x y => (ready.rgba x y).map (· * t.opacity))
          fun x y k => (ready.rgba x y).map (· * k)

/-- Blend a row of pixels as far as the layer reaches. -/
def row (blend : Blender) (row : Area.Row) (l : Layer) : Layer :=
  let rec go : Nat → Nat → Layer → Layer
    | 0, _, l => l
    | count + 1, i, l => go count (i + 1) (blend l (row.left + i) row.y (row.alpha.get! i))
  go (min row.alpha.size (l.width - row.left)) 0 l

end Paint

namespace Layer

/-- The coordinates of a path are small enough for a layer. -/
def admits (r : Rect) : Bool :=
  let limit : Float32 := 8.507059e37
  r.left ≥ -limit && r.top ≥ -limit && r.right ≤ limit && r.bottom ≤ limit

def fillPath (l : Layer) (path : Path) (rule : FillRule) (paint : Paint) (t : Transform) : Layer :=
  let path := path.map t
  match path.bounds?, { paint with brush := paint.brush.map t }.blender? with
  | some b, some blend =>
    if isTiny b.width || isTiny b.height || !admits b then l
    else if paint.smooth then
      Area.smooth path rule l.width l.height (fun l row => Paint.row blend row l) l
    else Area.hard path rule l.width l.height (fun l row => Paint.row blend row l) l
  | _, _ => l

def fillCells (blend : Blender) (left top width : Nat) : Nat → Nat → Layer → Layer
  | 0, _, l => l
  | count + 1, i, l =>
    fillCells blend left top width count (i + 1) (blend l (left + i % width) (top + i / width) 255)

/-- Put another layer on this one, its corner at a place. -/
def draw (l other : Layer) (x y : Int) (opacity : Float32) (mode : BlendMode) : Layer :=
  let brush : Brush := .texture ⟨other, false, .nearest, opacity,
    .shift (Float32.ofInt x) (Float32.ofInt y)⟩
  match ({ brush, mode, smooth := false } : Paint).blender? with
  | none => l
  | some blend =>
    let left := (max x 0).toNat
    let top := (max y 0).toNat
    let right := (min (x + other.width) l.width).toNat
    let bottom := (min (y + other.height) l.height).toNat
    fillCells blend left top (right - left) ((right - left) * (bottom - top)) 0 l

end Layer
end Iconsmith.Raster
