import Iconsmith.Effect.Basic
import Iconsmith.Geometry.Outline
import Iconsmith.Geometry.Stroke
import Iconsmith.Raster.Paint
import Iconsmith.Svg.Color

/-!
What a drawing shows: a tree of painted paths and images in groups. All lengths are resolved, every
group knows how far it reaches, and what elements referred to stands where it is used.
-/

namespace Iconsmith.Svg

open Iconsmith.Geometry Raster

structure Extent where
  /-- The shapes alone. -/
  shape : Rect
  /-- The shapes and the lines along them. -/
  line : Rect
  /-- All that is drawn. -/
  drawn : Rect
deriving Inhabited, Repr

def Extent.empty : Extent := ⟨⟨0, 0, 0, 0⟩, ⟨0, 0, 0, 0⟩, ⟨0, 0, 1, 1⟩⟩

/-- A colour of a gradient at a place between zero and one. -/
structure ColorStop where
  offset : Float32
  color : Color
  opacity : Float32
deriving Repr

inductive GradientShape where
  | line (start finish : Point)
  /-- From a focus outwards to a circle. -/
  | circle (focus centre : Point) (radius : Float32)
deriving Repr

structure GradientPaint where
  shape : GradientShape
  stops : List ColorStop
  spread : Spread
  place : Transform
deriving Repr

inductive MaskKind where
  | luminance
  | alpha
deriving DecidableEq, Repr

/-- How a group is put on what is below it. -/
structure GroupLook where
  place : Transform
  opacity : Float32
  blend : BlendMode
  /-- What is below the group does not take part in the blending inside of it. -/
  isolated : Bool
  /-- What is done to the group before it is clipped, one after the other. -/
  effects : List Effect
  extent : Extent

structure PathLook where
  path : Path
  rule : FillRule
  fillOpacity : Float32
  lineOpacity : Float32
  stroke : Stroke
  smooth : Bool
  /-- The line is drawn before the area. -/
  lineFirst : Bool
  visible : Bool
  extent : Extent

mutual

inductive Paint where
  | color (c : Color)
  | gradient (g : GradientPaint)
  /-- The content of a rectangle again and again. -/
  | pattern (tile : Rect) (place : Transform) (content : List Item)

/-- What bounds the visible part of a group: an area, and what bounds that. -/
inductive Clip where
  | mk (place : Transform) (content : List Item) (inner : Option Clip)

/-- What makes a group partly transparent. -/
inductive Mask where
  | mk (region : Rect) (kind : MaskKind) (content : List Item) (inner : Option Mask)

inductive Item where
  /-- A group; its effects may show pictures. -/
  | group (look : GroupLook) (clip : Option Clip) (mask : Option Mask) (pictures : List Item)
      (content : List Item)
  | path (look : PathLook) (fill line : Option Paint)
  | image (layer : Layer) (quality : Quality) (visible : Bool)
  /-- A drawing in the drawing. -/
  | picture (width height : Float32) (visible : Bool) (content : List Item)

end

structure Scene where
  width : Float32
  height : Float32
  content : List Item

namespace Item

def extent : Item → Extent
  | group look _ _ _ _ => look.extent
  | path look _ _ => look.extent
  | image layer _ _ =>
    let r : Rect := ⟨0, 0, Float32.ofNat layer.width, Float32.ofNat layer.height⟩
    ⟨r, r, r⟩
  | picture width height _ _ =>
    let r : Rect := ⟨0, 0, width, height⟩
    ⟨r, r, r⟩

def place : Item → Transform
  | group look _ _ _ _ => look.place
  | _ => .identity

def placed (i : Item) (r : Rect) : Rect := (i.place.applyRect? r).getD r

/-- The smallest rectangle around the shapes of some items, if it has an area. -/
def shapeOf? (items : List Item) : Option Rect :=
  (items.foldl (fun r i => Rect.union? r (some (i.placed i.extent.shape))) none).bind Rect.nonempty?

def extentOf (items : List Item) : Extent :=
  let around := fun f : Item → Option Rect =>
    items.foldl (fun r i => Rect.union? r (f i)) none
  let drawn := (around fun i => match i with
    | group look _ _ _ _ => look.place.applyRect? look.extent.drawn
    | i => some i.extent.line).bind Rect.nonempty?
  let drawn := drawn.getD Extent.empty.drawn
  match around fun i => some (i.placed i.extent.shape) with
  | none => { Extent.empty with drawn }
  | some shape =>
    ⟨shape, (around fun i => some (i.placed i.extent.line)).getD Extent.empty.line, drawn⟩

/-- A group that only places its content. -/
def grouped (place : Transform) (content : List Item) : Item :=
  group ⟨place, 1, .sourceOver, false, [], extentOf content⟩ none none [] content

mutual

/-- The smallest rectangle around the shapes of an item in a picture that it is mapped to. -/
def shapeIn? : Item → Transform → Option Rect
  | group look _ _ _ content, t => shapeAllIn? content (t.after look.place)
  | path look _ _, t =>
    if t.hasSkew then (look.path.map t).tightBounds?
    else t.applyRect? look.extent.shape
  | image layer _ _, t =>
    t.applyRect? ⟨0, 0, Float32.ofNat layer.width, Float32.ofNat layer.height⟩
  | picture width height _ _, t => t.applyRect? ⟨0, 0, width, height⟩

def shapeAllIn? : List Item → Transform → Option Rect
  | [], _ => none
  | i :: rest, t => Rect.union? (i.shapeIn? t) (shapeAllIn? rest t)

end

end Item
end Iconsmith.Svg
