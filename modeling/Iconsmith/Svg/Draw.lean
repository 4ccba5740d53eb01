import Iconsmith.Raster.Line
import Iconsmith.Raster.PixelBox
import Iconsmith.Svg.Scene

/-!
Drawing scenes on layers. A group that is more than a place for its content is drawn on a layer of its
own, which is then clipped, masked and put on the layer below.
-/

namespace Iconsmith.Svg

open Iconsmith.Geometry Raster

/-! ### Gradients -/

namespace GradientPaint

/-- A share as a byte, a half rounded up. -/
def toByte (x : Float32) : UInt8 := (x * 255 + 0.5).toUInt8

def fadedStops (g : GradientPaint) (opacity : Float32) : List Stop :=
  g.stops.map fun s =>
    ⟨min (max s.offset 0) 1, .ofBytes s.color.r s.color.g s.color.b
      (toByte (min (max (s.opacity * opacity) 0) 1))⟩

/-- The mean colour of stops, weighed by how much of the way they cover. -/
def average (stops : List Stop) : Rgba :=
  let add (c : Rgba) (k : Float32) (d : Rgba) : Rgba := Rgba.zip (fun x y => x + k * y) c d
  let rec go : List Stop → Rgba → Rgba
    | s :: t :: rest, sum =>
      let k := 0.5 * (t.offset - s.offset)
      go (t :: rest) (add (add sum k s.color) k t.color)
    | _, sum => sum
  let sum := go stops .clear
  let sum := match stops.head? with
    | some s => if s.offset > 0 then add sum s.offset s.color else sum
    | none => sum
  let sum := match stops.getLast? with
    | some s => if s.offset < 1 then add sum (1 - s.offset) s.color else sum
    | none => sum
  sum.map fun x => min (max x 0) 1

/-- What a gradient without any extent is painted like. -/
def flat (spread : Spread) (stops : List Stop) : Brush :=
  match spread with
  | .pad => .solid ((stops.getLast?.map Stop.color).getD .clear)
  | _ => .solid (average stops)

/-- Lengths up to this one are no extent. -/
def degenerate : Float32 := 1 / 32768

/-- The map that takes `(0, 0)` and `(1, 0)` to two points. -/
def segmentFrame (p q : Point) : Transform :=
  ⟨q.y - p.y, p.x - q.x, q.x - p.x, q.y - p.y, p.x, p.y⟩

/-- The brush of a gradient whose circles have their focus in another point than their centre. -/
def focalBrush? (g : GradientPaint) (stops : List Stop) (focus centre : Point) (radius : Float32) :
    Option Brush :=
  (segmentFrame focus centre).inverse?.map fun back =>
    let unitForm := (segmentFrame ⟨0, 0⟩ ⟨1, 0⟩).after back
    let r := radius / (focus - centre).length
    let touching := isTiny (1 - r)
    let stretch :=
      if touching then Transform.scaling 0.5 0.5
      else Transform.scaling (r / (r * r - 1)) (1 / (r * r - 1).abs.sqrt)
    let ramp := if touching then Ramp.touching else if r > 1 then .focal (1 / r) else .outer (1 / r)
    .gradient ⟨stops, g.spread, ramp, g.place, stretch.after unitForm, false⟩

def brush? (g : GradientPaint) (opacity : Float32) : Option Brush :=
  let stops := g.fadedStops opacity
  match stops with
  | [] => none
  | [s] => some (.solid s.color)
  | stops =>
    match g.shape with
    | .line p q =>
      let length := (q - p).length
      if !length.isFinite then none
      else if length.abs ≤ degenerate then some (flat g.spread stops)
      else if g.place.inverse?.isNone then none
      else some (.gradient ⟨stops, g.spread, .linear, g.place, Gradient.lineToUnit p q, true⟩)
    | .circle focus centre radius =>
      let length := (centre - focus).length
      if radius < 0 || !radius.isFinite || !length.isFinite || g.place.inverse?.isNone then none
      else if length.abs ≤ degenerate then
        some (.gradient
          ⟨stops, g.spread, .radial, g.place, Gradient.circleToUnit focus radius, true⟩)
      else g.focalBrush? stops focus centre radius

end GradientPaint

/-! ### Layers for groups -/

namespace GroupLook

/-- The pixels of the layer for a group: those around what is drawn, with some to spare unless the
effects of the group tell exactly how far it reaches. They lie within twice the sides of a canvas around
it. -/
def box? (look : GroupLook) (r : Rect) (width height : Nat) : Option PixelBox :=
  let box : PixelBox := if look.effects.isEmpty then
      ⟨r.left.floor.toInt32.toInt - 2, r.top.floor.toInt32.toInt - 2,
        r.width.ceil.toUInt32.toNat + 5, r.height.ceil.toUInt32.toNat + 5⟩
    else .ofRect r
  box.inter? ⟨-2 * width, -2 * height, 5 * width, 5 * height⟩

def needsLayer (look : GroupLook) : Bool :=
  look.isolated || look.opacity != 1 || look.blend != .sourceOver || !look.effects.isEmpty

end GroupLook

/-- Keep the share of each pixel that a function of its number gives. -/
def keep (l : Layer) (share : Nat → UInt8) : Layer :=
  match l with
  | ⟨width, height, bytes⟩ =>
    let rec go : Nat → ByteArray → ByteArray
      | 0, bytes => bytes
      | n + 1, bytes =>
        let k := (share n).toUInt32
        let cut (bytes : ByteArray) (i : Nat) : ByteArray :=
          bytes.set! i (Lanes.share ((bytes.get! i).toUInt32 * k)).toUInt8
        go n (cut (cut (cut (cut bytes (4 * n)) (4 * n + 1)) (4 * n + 2)) (4 * n + 3))
    ⟨width, height, go (width * height) bytes⟩

def MaskKind.share (kind : MaskKind) (mask : Layer) (n : Nat) : UInt8 :=
  match kind with
  | .alpha => mask.byte (4 * n + 3)
  | .luminance =>
    let a := (mask.byte (4 * n + 3)).toFloat32 / 255
    let part (i : Nat) : Float32 :=
      let v := (mask.byte (4 * n + i)).toFloat32 / 255
      if mask.byte (4 * n + 3) == 0 then v else v / a
    let luminance := part 0 * 0.2125 + part 1 * 0.7154 + part 2 * 0.0721
    (min (max (luminance * a * 255) 0) 255).ceil.toUInt8

/-- The sides of a path's bounds have an extent, so there may be an area. -/
def hasArea (path : Path) : Bool := path.bounds?.any fun b => b.width != 0 && b.height != 0

/-! ### Drawing

The width and the height are those of the whole canvas, which limit the layers of groups.
-/

def clipPath (look : PathLook) (mode : BlendMode) (t : Transform) (l : Layer) : Layer :=
  if look.visible && hasArea look.path then
    l.fillPath look.path look.rule ⟨.solid ⟨0, 0, 0, 1⟩, mode, look.smooth⟩ t
  else l

def fillArea (look : PathLook) (brush : Brush) (t : Transform) (l : Layer) : Layer :=
  if hasArea look.path then l.fillPath look.path look.rule ⟨brush, .sourceOver, look.smooth⟩ t
  else l

mutual

/-- Paint a clip's content. Where the content covers a pixel, the mode decides what becomes of it. -/
def Item.clip (mode : BlendMode) : Item → Transform → Layer → Layer
  | .path look fill _, t, l => if fill.isSome then clipPath look mode t l else l
  | .group look none _ _ content, t, l => clipAll mode content (t.after look.place) l
  | .group look (some c) _ _ content, t, l =>
    let t := t.after look.place
    let sub := clipAll .sourceOver content t (.clear l.width l.height)
    l.draw (c.cut t sub) 0 0 1 .xor
  | .image _ _ _, _, l => l
  | .picture _ _ _ _, _, l => l

def clipAll (mode : BlendMode) : List Item → Transform → Layer → Layer
  | [], _, l => l
  | i :: rest, t, l => clipAll mode rest t (i.clip mode t l)

/-- Keep what lies inside of a clip. -/
def Clip.cut : Clip → Transform → Layer → Layer
  | .mk place content inner, t, l =>
    let outside := clipAll .clear content (t.after place) (.filled l.width l.height 0 0 0 255)
    keep (cutInner inner t l) fun n => 255 - outside.byte (4 * n + 3)

def cutInner : Option Clip → Transform → Layer → Layer
  | none, _, l => l
  | some c, t, l => c.cut t l

end

mutual

def Item.draw (width height : Nat) : Item → Transform → Layer → Layer
  | .group look clip mask pictures content, t, l =>
    let t := t.after look.place
    if !look.needsLayer && clip.isNone && mask.isNone then drawAll width height content t l
    else
      match (t.applyRect? look.extent.drawn).bind Rect.nonempty? with
      | none => l
      | some r =>
        match look.box? r width height with
        | none => l
        | some box =>
          let x := r.left - (r.left - Float32.ofInt box.x)
          let y := r.top - (r.top - Float32.ofInt box.y)
          let t := (Transform.shift (-x) (-y)).after t
          let sub := drawAll width height content t (.clear box.width box.height)
          let (sx, sy) := t.scales
          let picture := fun (region : PixelBox) (n : Nat) (b : PixelBox) =>
            drawNth width height pictures n ⟨sx, 0, 0, sy, Float32.ofInt b.x, Float32.ofInt b.y⟩
              (.clear region.width region.height)
          let sub := look.effects.foldl (fun l e => e.apply picture t l) sub
          let sub := cutInner clip t sub
          let sub := maskInner width height mask t sub
          l.draw sub box.x box.y look.opacity look.blend
  | .path look fill line, t, l =>
    if !look.visible then l
    else if look.lineFirst then
      fillWith width height look fill t (lineWith width height look line t l)
    else lineWith width height look line t (fillWith width height look fill t l)
  | .image layer quality visible, t, l =>
    if !visible then l
    else
      match Rect.ofSize? 0 0 (.ofNat layer.width) (.ofNat layer.height) with
      | none => l
      | some r =>
        l.fillPath (.ofRect r) .nonzero
          ⟨.texture ⟨layer, false, quality, 1, .identity⟩, .sourceOver, true⟩ t
  | .picture _ _ visible content, t, l =>
    if !visible then l
    else l.draw (drawAll width height content t (.clear l.width l.height)) 0 0 1 .sourceOver

/-- Draw items, the first one below the others. -/
def drawAll (width height : Nat) : List Item → Transform → Layer → Layer
  | [], _, l => l
  | i :: rest, t, l => drawAll width height rest t (i.draw width height t l)

def drawNth (width height : Nat) : List Item → Nat → Transform → Layer → Layer
  | [], _, _, l => l
  | i :: _, 0, t, l => i.draw width height t l
  | _ :: rest, n + 1, t, l => drawNth width height rest n t l

def fillWith (width height : Nat) (look : PathLook) : Option Paint → Transform → Layer → Layer
  | none, _, l => l
  | some p, t, l =>
    match p.brush? width height look.fillOpacity t with
    | none => l
    | some brush => fillArea look brush t l

def lineWith (width height : Nat) (look : PathLook) : Option Paint → Transform → Layer → Layer
  | none, _, l => l
  | some p, t, l =>
    match p.brush? width height look.lineOpacity t with
    | none => l
    | some brush => l.strokePath look.path look.stroke ⟨brush, .sourceOver, look.smooth⟩ t

/-- The brush of a paint for something with an opacity. The content of a pattern is drawn in the size
that it will have. -/
def Paint.brush? (width height : Nat) : Paint → Float32 → Transform → Option Brush
  | .color c, opacity, _ => some (.solid (.ofBytes c.r c.g c.b (GradientPaint.toByte opacity)))
  | .gradient g, opacity, _ => g.brush? opacity
  | .pattern tile place content, opacity, t =>
    let (sx, sy) := (t.after place).scales
    let w := (tile.width * sx).round.toUInt32.toNat
    let h := (tile.height * sy).round.toUInt32.toNat
    if w = 0 ∨ h = 0 then none
    else
      let layer := drawAll width height content (.scaling sx sy) (.clear w h)
      let place := (place.after (.shift tile.left tile.top)).after (.scaling (1 / sx) (1 / sy))
      some (.texture ⟨layer, true, .bicubic, opacity, place⟩)

/-- Reduce what a mask covers in part and drop what it does not cover. -/
def Mask.reduce (width height : Nat) : Mask → Transform → Layer → Layer
  | .mk region kind content inner, t, l =>
    let window := (Layer.clear l.width l.height).fillPath (.ofRect region) .nonzero
      ⟨.solid ⟨1, 1, 1, 1⟩, .sourceOver, true⟩ t
    let mask := drawAll width height content t (.clear l.width l.height)
    let mask := keep mask fun n => window.byte (4 * n + 3)
    keep (maskInner width height inner t l) (kind.share mask)

def maskInner (width height : Nat) : Option Mask → Transform → Layer → Layer
  | none, _, l => l
  | some m, t, l => m.reduce width height t l

end

/-- A scene on a canvas: as large as it fits, in the middle. -/
def Scene.draw (s : Scene) (width height : Nat) : Layer :=
  let w := Float32.ofNat width
  let h := Float32.ofNat height
  let scale := min (w / s.width) (h / s.height)
  let t : Transform := ⟨scale, 0, 0, scale, (w - s.width * scale) / 2, (h - s.height * scale) / 2⟩
  drawAll width height s.content t (.clear width height)

end Iconsmith.Svg
