import Iconsmith.Bitmap
import Iconsmith.Effect.Blur
import Iconsmith.Effect.Light
import Iconsmith.Effect.Neighbors
import Iconsmith.Effect.Noise
import Iconsmith.Effect.Recolor
import Iconsmith.Geometry.Transform
import Iconsmith.Raster.Paint
import Iconsmith.Raster.PixelBox

/-!
Effects on a part of a drawing: steps, each of which makes a layer from layers that earlier steps made.
The last one is the result.
-/

namespace Iconsmith

open Iconsmith.Geometry Raster

namespace Effect

inductive Input where
  | drawing
  /-- Only its alpha. -/
  | silhouette
  /-- What an earlier step made. -/
  | step (index : Nat)
deriving DecidableEq, Repr

inductive Kind where
  | blur (input : Input) (dx dy : Float32)
  | shadow (input : Input) (dx dy deviationX deviationY : Float32) (color : Pixel)
  | offset (input : Input) (dx dy : Float32)
  | flood (color : Pixel)
  | blend (mode : BlendMode) (upper lower : Input)
  | arithmetic (k₁ k₂ k₃ k₄ : Float32) (first second : Input)
  | merge (inputs : List Input)
  | tile (input : Input)
  | picture (index : Nat)
  | transfer (input : Input) (r g b a : Transfer)
  | recolor (input : Input) (matrix : ColorMatrix)
  | convolve (input : Input) (kernel : Kernel)
  | morphology (input : Input) (widen : Bool) (rx ry : Float32)
  | displace (scale : Float32) (across down : Channel) (input map : Input)
  | noise (noise : Noise)
  | light (input : Input) (lighting : Lighting)
deriving Repr

/-- Share of the sides of an element's box by which it spreads beyond each of them. -/
def Kind.margin : Kind → Float32
  | .blur .. => 0.5
  | .shadow .. => 0.5
  | _ => 0.1

/-- A step: what it does, where its result counts, and how colours are counted in it. -/
structure Step where
  kind : Kind
  region : Rect
  space : ColorSpace
deriving Repr

end Effect

/-- An effect: where it can be seen, and its steps. -/
structure Effect where
  region : Rect
  steps : List Effect.Step
deriving Repr

namespace Effect

/-- What a step has made. The layer covers the region of the whole effect. -/
structure Made where
  layer : Layer
  region : PixelBox
  space : ColorSpace

/-- A step that failed leaves nothing. -/
abbrev Result := Option Made

/-- What all steps of an effect know. -/
structure Stage where
  drawing : Layer
  region : PixelBox
  /-- From the drawing to the layers. -/
  place : Transform
  /-- The picture of a number, given where the step counts. -/
  picture : Nat → PixelBox → Layer
  made : Array Made

namespace Stage

def blank (s : Stage) : Layer := .clear s.region.width s.region.height

/-- A layer on which colours are counted in a way, everywhere in the effect. -/
def whole (s : Stage) (space : ColorSpace) (layer : Layer) : Made := ⟨layer, s.region, space⟩

/-- The part of the drawing that the effect covers. -/
def source (s : Stage) : Result := (s.drawing.crop? s.region).map (s.whole .stored)

def input (s : Stage) : Input → Result
  | .drawing => s.source
  | .silhouette => s.source.map fun m => { m with layer := m.layer.map fun c => ⟨0, 0, 0, c.a⟩ }
  | .step index => s.made[index]? <|> s.source

def layer (s : Stage) (space : ColorSpace) (i : Input) : Option Layer :=
  (s.input i).map fun m => convert m.space space m.layer

/-- Lengths of the drawing along both axes, in pixels. -/
def lengths (s : Stage) (dx dy : Float32) : Float32 × Float32 :=
  let (sx, sy) := s.place.scales
  (dx * sx, dy * sy)

/-- A deviation in pixels, unless it is zero along both axes. -/
def deviation? (s : Stage) (dx dy : Float32) : Option (Float32 × Float32) :=
  let (x, y) := s.lengths dx dy
  if isWithin 4 x 0 && isWithin 4 y 0 then none else some (x, y)

def lamp (s : Stage) (l : Lamp) : Lamp :=
  let depth := (s.place.sx * s.place.sx + s.place.sy * s.place.sy).sqrt / 1.4142135
  let seen := fun v : Vector =>
    let p := s.place.apply ⟨v.x, v.y⟩
    (⟨p.x - Float32.ofInt s.region.x, p.y - Float32.ofInt s.region.y, v.z * depth⟩ : Vector)
  match l with
  | .distant a e => .distant a e
  | .point place => .point (seen place)
  | .spot place target exponent limit => .spot (seen place) (seen target) exponent limit

/-- A color faded by the alpha of each pixel, for the shadow of a layer. -/
def tinted (color : Pixel) (l : Layer) : Layer :=
  let base := Rgba.ofBytes color.r color.g color.b color.a
  l.map fun c => Lanes.round (base.fade (fraction c.a)).premultiply

def noise (s : Stage) (n : Noise) : Layer :=
  let (sx, sy) := s.place.scales
  if isWithin 4 sx 0 || isWithin 4 sy 0 then s.blank
  else
    n.layer s.region.width s.region.height (Float.ofInt s.region.x - s.place.tx.toFloat)
      (Float.ofInt s.region.y - s.place.ty.toFloat) sx.toFloat sy.toFloat

/-- Fill the region of the effect with what lies in the region of a step, again and again. -/
def tiled (s : Stage) (m : Made) : Result :=
  let b := m.region.relativeTo s.region.x s.region.y
  (m.layer.crop? b).map fun tile =>
    let layer := Layer.ofFn s.region.width s.region.height fun x y =>
      tile.lanes (((x : Int) - b.x).emod tile.width).toNat (((y : Int) - b.y).emod tile.height).toNat
    ⟨layer, b, m.space⟩

def make (s : Stage) (space : ColorSpace) (box : PixelBox) : Kind → Result
  | .blur i dx dy =>
    match s.deviation? dx dy with
    | none => s.input i
    | some (x, y) => (s.layer space i).map fun l => s.whole space (Effect.blur x y l)
  | .shadow i dx dy deviationX deviationY color =>
    (s.layer space i).map fun l =>
      let soft := match s.deviation? deviationX deviationY with
        | none => l
        | some (x, y) => Effect.blur x y l
      let tint := tinted color soft
      let tint := match space with
        | .stored => toStored tint
        | .linear => toLinear tint
      let (x, y) := s.lengths dx dy
      let under := s.blank.draw tint x.toInt32.toInt y.toInt32.toInt 1 .sourceOver
      s.whole space (under.draw l 0 0 1 .sourceOver)
  | .offset i dx dy =>
    (s.input i).map fun m =>
      let (x, y) := s.lengths dx dy
      if isWithin 4 x 0 && isWithin 4 y 0 then m
      else { m with layer := s.blank.draw m.layer x.toInt32.toInt y.toInt32.toInt 1 .sourceOver }
  | .flood color =>
    let c := Lanes.round (Rgba.ofBytes color.r color.g color.b color.a).premultiply
    some (s.whole .stored (.ofFn s.region.width s.region.height fun _ _ => c))
  | .blend mode upper lower => do
    let u ← s.layer space upper
    let l ← s.layer space lower
    return s.whole space ((s.blank.draw l 0 0 1 .sourceOver).draw u 0 0 1 mode)
  | .arithmetic k₁ k₂ k₃ k₄ first second => do
    let u ← s.layer space first
    let l ← s.layer space second
    return s.whole space (Effect.arithmetic k₁ k₂ k₃ k₄ u l)
  | .merge inputs => do
    let layers ← inputs.mapM (s.layer space)
    return s.whole space (layers.foldl (fun below l => below.draw l 0 0 1 .sourceOver) s.blank)
  | .tile i => (s.input i).bind s.tiled
  | .picture index => some ⟨s.picture index box, box, .stored⟩
  | .transfer i r g b a => (s.layer space i).map fun l => s.whole space (Effect.transfer r g b a l)
  | .recolor i m => (s.layer space i).map fun l => s.whole space (Effect.recolor m l)
  | .convolve i k => (s.layer space i).map fun l => s.whole space (Effect.convolve k l)
  | .morphology i widen rx ry =>
    (s.layer space i).map fun l =>
      let (x, y) := s.lengths rx ry
      s.whole space (if x > 0 && y > 0 then spreadOut widen x y l else .clear l.width l.height)
  | .displace scale across down i m => do
    let l ← s.layer space i
    let map ← s.layer space m
    let (x, y) := s.lengths scale scale
    return s.whole space (Effect.displace x y across down l map)
  | .noise n => some (s.whole space (s.noise n))
  | .light i e =>
    (s.input i).map fun m => s.whole space ({ e with lamp := s.lamp e.lamp }.apply m.layer)

/-- The region of a step: an offset of what another step made counts where that one does. -/
def regionOf (s : Stage) (step : Step) : Option PixelBox :=
  let own := (s.place.applyRect? step.region).map PixelBox.ofRect
  match step.kind with
  | .offset (.step index) .. => own.map fun box => (s.made[index]?.map Made.region).getD box
  | _ => own

/-- Run a step. What it makes outside of its region does not count; an offset is not cut. -/
def run (s : Stage) (step : Step) : Option Stage := do
  let box ← s.regionOf step
  let m ← s.make step.space box step.kind
  let m := if box = s.region then m
    else
      let visible : PixelBox := match step.kind with
        | .offset .. => { s.region with x := 0, y := 0 }
        | _ => box.relativeTo s.region.x s.region.y
      { m with layer := m.layer.keepWithin visible, region := box }
  return { s with made := s.made.push m }

end Stage

/-- What an effect makes of a part of a drawing. It leaves nothing if a step fails. `place` maps the
drawing to the layer. -/
def apply (e : Effect) (picture : PixelBox → Nat → PixelBox → Layer) (place : Transform)
    (drawing : Layer) : Layer :=
  let result := do
    let r ← place.applyRect? e.region
    let region := PixelBox.ofRect r
    let stage ← e.steps.foldlM Stage.run ⟨drawing, region, place, picture region, #[]⟩
    let last ← stage.made.back?
    return convert last.space .stored last.layer
  let blank := Layer.clear drawing.width drawing.height
  match result with
  | some l => blank.draw l 0 0 1 .sourceOver
  | none => blank

end Effect
end Iconsmith
