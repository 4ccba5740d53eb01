import Iconsmith.Binary32
import Iconsmith.Svg.Document
import Iconsmith.Svg.Effects
import Iconsmith.Svg.Picture
import Iconsmith.Svg.Shape

/-!
From elements to scenes. Elements that refer to others, as paints, clips, masks, patterns or markers, take
them over; so the steps are counted, and elements too deep in each other are left out.
-/

namespace Iconsmith.Svg

open Iconsmith.Geometry Raster

/-- The elements of a drawing by their names; of those that share a name the last one comes first. -/
def Document.named (d : Document) : List (String × Node) :=
  let all := (⟨d.root, []⟩ : Node).allWithin 1100
  (all.filterMap fun n => (n.get? "id").map fun id => (id, n)).reverse

/-- What a part of a drawing is painted with, and how much of what is below it shows. -/
structure Painting where
  source : Source
  opacity : Float32

/-- What the elements of a drawing need to know of what is around them. -/
structure Setting where
  find : String → Option Node
  /-- The images that elements may refer to; a drawing within a drawing has none. -/
  pictures : String → Option Picture
  /-- The visible part. -/
  view : Rect
  /-- The sides of the element that uses a drawing. -/
  useWidth : Option Float32
  useHeight : Option Float32
  /-- Shapes are parts of a clip. -/
  clipping : Bool
  /-- How the element is painted that uses others. -/
  contextFill : Option Painting
  contextLine : Option Painting
  /-- The markers and pictured elements around. -/
  entered : List Nat

namespace Setting

def linked? (s : Setting) (n : Node) (name : String) : Option Node :=
  (n.get? name).bind link? |>.bind s.find

/-- What a property leads to. Without a link it is nothing; a link that leads to nothing valid has no
answer. -/
def follow? {α : Type} (s : Setting) (n : Node) (name : String) (f : Node → Option α) :
    Option (Option α) :=
  match s.linked? n name with
  | none => some none
  | some link => (f link).map some

def length (s : Setting) (n : Node) (name : String) (default : Length) : Float32 :=
  n.lengthOf s.view false name default

def transform (s : Setting) (n : Node) : Transform := n.transform s.view "transform"

/-- The sides that an element asks for; without them it takes all of the visible part. -/
def sides (s : Setting) (n : Node) : Float32 × Float32 :=
  (s.length n "width" (.percent 100), s.length n "height" (.percent 100))

/-- The sides that an element asks for. The ones of the element that uses a drawing count more than its
own. -/
def usedSides (s : Setting) (n : Node) : Float32 × Float32 :=
  let (w, h) := s.sides n
  if n.tag == "svg" then (s.useWidth.getD w, s.useHeight.getD h) else (w, h)

/-- The setting of what an element uses that is painted in this way. -/
def painted (s : Setting) (fill line : Option Painting) : Setting :=
  { s with contextFill := fill, contextLine := line }

/-- The setting of a drawing that an element uses and asks for sides of. -/
def sized (s : Setting) (n : Node) : Setting :=
  { s with
    useWidth := if n.has "width" then some (s.length n "width" (.percent 100)) else none
    useHeight := if n.has "height" then some (s.length n "height" (.percent 100)) else none }

/-- The setting in which an element is not to be shown once more. -/
def entering (s : Setting) (n : Node) : Setting :=
  { s with entered := n.element.number :: s.entered }

def viewing (s : Setting) (view : Rect) : Setting := { s with view }

def inClip (s : Setting) : Setting := { s with clipping := true }

/-- The map from the visible part that an element asks for to the sides of the one that uses it. -/
def viewTransform? (s : Setting) (user n : Node) : Option Transform :=
  let (w, h) := s.usedSides user
  if !isPositive w || !isPositive h then none
  else (ViewBox.ofNode? n).map fun v => v.toTransform w h

/-- The rectangle that bounds what an element shows of another one. -/
def window? (s : Setting) (user n : Node) : Option Rect :=
  let overflow := n.get? "overflow"
  if overflow == some "visible" || overflow == some "auto" then none
  else if user.tag == "svg" && s.useWidth.isNone && s.useHeight.isNone &&
      !(user.has "width" && user.has "height") then none
  else
    let (w, h) := s.usedSides user
    if !isPositive w || !isPositive h then none
    else (Rect.ofSize? (s.length user "x" .zero) (s.length user "y" .zero) w h).bind Rect.nonempty?

end Setting

/-- A path that is painted black, for clips. -/
def plainPath (path : Path) : Item :=
  let box := path.tightBounds?.getD default
  .path ⟨path, .nonzero, 1, 1, ⟨1, 4, .butt, .miter, none⟩, true, false, true, ⟨box, box, box⟩⟩
    (some (.color .black)) none

def rectClip (r : Rect) : Clip := .mk .identity [plainPath (.ofRect r)] none

/-! ### Markers -/

/-- A step of a path with the points that decide where markers look. -/
structure Vertex where
  /-- The end of the step. -/
  point : Point
  /-- The direction in which the step arrives, if it is drawn. -/
  incoming : Option Point
  /-- The direction in which the next step leaves, if it is drawn. -/
  outgoing : Option Point
  closes : Bool
deriving Inhabited

namespace Vertex

def firstNonzero : List Point → Point
  | [] => .zero
  | v :: rest => if v.isZero then firstNonzero rest else v

/-- The steps of a path, without their outgoing directions, and the directions in which they leave. -/
def steps : List Segment → Point → Point → List (Vertex × Option Point)
  | [], _, _ => []
  | s :: rest, here, start =>
    match s with
    | .move p => (⟨p, none, none, false⟩, none) :: steps rest p p
    | .line p => (⟨p, some (p - here), none, false⟩, some (p - here)) :: steps rest p start
    | .quad c p =>
      (⟨p, some (firstNonzero [p - c, p - here]), none, false⟩,
        some (firstNonzero [c - here, p - here])) :: steps rest p start
    | .cubic c d p =>
      (⟨p, some (firstNonzero [p - d, p - c, p - here]), none, false⟩,
        some (firstNonzero [c - here, d - here, p - here])) :: steps rest p start
    | .close => (⟨start, some (start - here), none, true⟩, some (start - here)) :: steps rest start start

def ofPath (path : Path) : List Vertex :=
  let all := steps path.segments.toList .zero .zero
  (all.zip ((all.drop 1).map Prod.snd ++ [none])).map fun ((v, _), next) => { v with outgoing := next }

/-- An angle between zero and a whole turn. -/
def normalized (angle : Float32) : Float32 :=
  let turn : Float32 := 6.2831855
  let rest := (remainder angle.toFloat turn.toFloat).toFloat32
  if rest < 0 then rest + turn else rest

def angleOf (v : Point) : Float32 :=
  let a := v.y.atan2 v.x
  if a.isNaN then 0 else normalized a

/-- The direction in the middle between two, in degrees. -/
def between (u v : Point) : Float32 :=
  let a := angleOf u
  let d := (angleOf v - a) * 0.5
  let m := a + d
  let m := if d.abs > 1.5707964 then m - 3.1415927 else m
  normalized m * 57.29578

/-- Where a marker at a vertex looks, in degrees. -/
def angle (v : Vertex) : Float32 :=
  match v.incoming, v.outgoing with
  | none, none => 0
  | some u, none => between u u
  | none, some w => between w w
  | some u, some w => between u w

end Vertex

inductive MarkerPlace where
  | start
  | middle
  | finish
deriving DecidableEq, Repr

namespace MarkerPlace

/-- The vertices of a part, each with whether it is the first of all. -/
def vertices (m : MarkerPlace) (all : List Vertex) : List (Vertex × Bool) :=
  match m with
  | start => (all.take 1).map (·, true)
  | middle => (((all.drop 1).dropLast).filter fun v => !v.closes).map (·, false)
  | finish => (all.drop (all.length - 1)).map (·, false)

end MarkerPlace

inductive Orientation where
  | along
  /-- Along the path, but the first one backwards. -/
  | alongFromStart
  | fixed (degrees : Float32)

namespace Node

def orientation (n : Node) : Orientation :=
  match n.get? "orient" with
  | some "auto" => .along
  | some "auto-start-reverse" => .alongFromStart
  | some text =>
    match readNumber text.toList with
    | none => .fixed 0
    | some (x, rest) =>
      match String.ofList rest with
      | "grad" => .fixed (x * 180 / 200).toFloat32
      | "rad" => .fixed (x * 180 / Matrix.pi).toFloat32
      | "turn" => .fixed (x * 360).toFloat32
      | _ => .fixed x.toFloat32
  | none => .fixed 0

/-- The size that a drawing has, and whether it depends on what the drawing shows. -/
def documentSize (root : Node) : Except Fault (Float32 × Float32 × Bool) :=
  let view? := ViewBox.rectOf? root
  let side (name : String) : Length := ((root.get? name).bind Length.parse?).getD (.percent 100)
  let width := side "width"
  let height := side "height"
  let fallback : Rect := ⟨0, 0, 100, 100⟩
  let view := view?.getD fallback
  let w := if width.unit == .percent && view?.isSome then
      view.width * Binary32.ofFloat width.value / 100
    else root.pixels view false "width" width
  let h := if height.unit == .percent && view?.isSome then
      view.height * Binary32.ofFloat height.value / 100
    else root.pixels view false "height" height
  if isPositive w && isPositive h then
    .ok (w, h, view?.isNone && (width.unit == .percent || height.unit == .percent))
  else .error .invalidSize

end Node

mutual

/-- What an element shows. -/
def items : Nat → Setting → Node → List Item
  | 0, _, _ => []
  | fuel + 1, s, n =>
    if !(graphicTags.contains n.tag || n.tag == "svg") || !n.isShown then []
    else
      match n.tag with
      | "use" => useItems fuel s n
      | "switch" =>
        match n.children.find? Node.meetsConditions with
        | none => []
        | some c => groupItems fuel s n false (s.transform n) (items fuel s c)
      | "svg" =>
        if n.around.isEmpty then
          groupItems fuel s n false (s.transform n) (n.children.flatMap (items fuel s))
        else nestedItems fuel s n
      | "g" => groupItems fuel s n false (s.transform n) (n.children.flatMap (items fuel s))
      | "image" => groupItems fuel s n false (s.transform n) (imageItems fuel s n none)
      | _ =>
        match n.shape? s.view with
        | none => []
        | some path => groupItems fuel s n false (s.transform n) (pathItems fuel s n path)

/-- The content of an element in a group, if its properties need one. -/
def groupItems : Nat → Setting → Node → Bool → Transform → List Item → List Item
  | 0, _, _, _, _, _ => []
  | fuel + 1, s, n, force, place, content =>
    let opacity := if s.clipping then 1 else n.share "opacity"
    let isolated := n.get? "isolation" == some "isolate"
    let box := Item.shapeOf? content
    let clip? := s.follow? n "clip-path" fun link => clip? fuel s link box
    let mask? := if s.clipping then some none
      else s.follow? n "mask" fun link => mask? fuel s link box
    let effects? := if s.clipping then some Effects.empty else Effects.of? s.find s.view n box
    match clip?, mask?, effects? with
    | some clip, some mask, some e =>
      let plain := isWithin 4 opacity 1 && clip.isNone && mask.isNone && e.effects.isEmpty &&
        (s.transform n).isIdentity && n.blend == .sourceOver && !isolated && !force
      if plain then content
      else
        let extent := Item.extentOf content
        let extent := { extent with drawn := e.reach?.getD extent.drawn }
        let pictures := e.pictures.map fun (m, r) => Item.grouped .identity (pictureItems fuel s m r)
        [.group ⟨place, opacity, n.blend, isolated, e.effects, extent⟩ clip mask pictures content]
    | _, _, _ => []

/-- What an effect shows of another element, or of an image that fills a rectangle. -/
def pictureItems : Nat → Setting → Node → Rect → List Item
  | 0, _, _, _ => []
  | fuel + 1, s, n, r =>
    match (n.get? "href").bind reference? |>.bind s.find with
    | some m =>
      if s.entered.contains m.element.number then []
      else items fuel (s.entering m) m
    | none => imageItems fuel s n (some ⟨0, 0, r.width, r.height⟩)

def placedItems : Nat → Setting → Node → Transform → List Item
  | 0, _, _, _ => []
  | fuel + 1, s, n, t =>
    let content := if s.clipping then clipItems fuel s n else n.children.flatMap (items fuel s)
    groupItems fuel s n (!t.isIdentity) t content

def useItems : Nat → Setting → Node → List Item
  | 0, _, _ => []
  | fuel + 1, s, n =>
    match n.children with
    | [] => []
    | c :: _ =>
      if s.clipping && c.tag == "symbol" then []
      else
        let s := s.painted (fill? fuel s n true) (line? fuel s n true)
        let own := s.transform n
        let shift := Transform.shift (s.length n "x" .zero) (s.length n "y" .zero)
        if c.tag == "symbol" then
          let inner := match s.viewTransform? n c with
            | some t => shift.after t
            | none => shift
          match s.window? n c with
          | some r =>
            let content := groupItems fuel s n true .identity (placedItems fuel s c inner)
            [.group ⟨own, 1, .sourceOver, false, [], Item.extentOf content⟩ (some (rectClip r)) none
              [] content]
          | none => groupItems fuel s n false .identity (placedItems fuel s c (own.after inner))
        else
          placedItems fuel (if c.tag == "svg" then s.sized n else s) n (own.after shift)

def nestedItems : Nat → Setting → Node → List Item
  | 0, _, _ => []
  | fuel + 1, s, n =>
    let own := s.transform n
    let x := s.length n "x" .zero
    let y := s.length n "y" .zero
    let shift := Transform.shift x y
    let inner := match s.viewTransform? n n with
      | some t => shift.after t
      | none => shift
    let view := match ViewBox.rectOf? n with
      | some r => r
      | none =>
        let (w, h) := s.usedSides n
        ((Rect.ofSize? x y w h).bind Rect.nonempty?).getD s.view
    match s.window? n n with
    | some r =>
      let content := placedItems fuel (s.viewing view) n inner
      [.group ⟨own, 1, .sourceOver, false, [], Item.extentOf content⟩ (some (rectClip r)) none [] content]
    | none => placedItems fuel (s.viewing view) n (own.after inner)

def clipItems : Nat → Setting → Node → List Item
  | 0, _, _ => []
  | fuel + 1, s, n =>
    n.children.flatMap fun c =>
      if !graphicTags.contains c.tag || !c.isShown then []
      else if c.tag == "use" then useItems fuel s c
      else
        match c.shape? s.view with
        | none => []
        | some path => groupItems fuel s c false (s.transform c) (pathItems fuel s c path)

/-- The clip of an element. A link to an element of another kind, or to a clip that is itself bounded by
nothing valid, has none. -/
def clip? : Nat → Setting → Node → Option Rect → Option Clip
  | 0, _, _, _ => none
  | fuel + 1, s, n, box =>
    let usable := match n.get? "transform" with
      | none => true
      | some text => (transform? text).any Transform.isValid
    if n.tag != "clipPath" || !usable then none
    else
      match s.follow? n "clip-path" fun link => clip? fuel s link box with
      | none => none
      | some inner =>
        let t := s.transform n
        let place? := if n.isOnBox "clipPathUnits" false then
            box.map fun b => t.after (.ofRect b)
          else some t
        place?.map fun place => .mk place (clipItems fuel s.inClip n) inner

def mask? : Nat → Setting → Node → Option Rect → Option Mask
  | 0, _, _, _ => none
  | fuel + 1, s, n, box =>
    if n.tag != "mask" then none
    else
      let onBox := n.isOnBox "maskUnits" true
      let contentOnBox := n.isOnBox "maskContentUnits" false
      let number (name : String) (percent : Float) : Float32 :=
        n.lengthOf s.view onBox name (.percent percent)
      let region? := (Rect.ofSize? (number "x" (-10)) (number "y" (-10)) (number "width" 120)
        (number "height" 120)).bind Rect.nonempty?
      let kind := if n.get? "mask-type" == some "alpha" then MaskKind.alpha else .luminance
      match region? with
      | none => none
      | some region =>
        if (onBox || contentOnBox) && box.isNone then
          if contentOnBox then none else some (.mk region kind [] none)
        else
          let b := box.getD region
          let inner? := s.follow? n "mask" fun link => mask? fuel s link box
          match if onBox then Server.within region b else some region, inner? with
          | some region, some inner =>
            let content := n.children.flatMap (items fuel s)
            if content.isEmpty then none
            else
              let content :=
                if contentOnBox then [Item.grouped (.ofRect b) content] else content
              some (.mk region kind content inner)
          | _, _ => none

/-- What a property of an element paints with. `hasBox` says that the shape has an area, without which
shares of its box mean nothing. -/
def painting? : Nat → Setting → Node → String → Bool → Option Painting
  | 0, _, _, _, _ => none
  | fuel + 1, s, n, name, hasBox =>
    let colored (c : Color) : Painting := ⟨.color c, c.opacity⟩
    let current : Painting := colored (((n.find? "color").bind Color.parse?).getD .black)
    let instead : Option Fallback → Option Painting
      | some (.color c) => some (colored c)
      | some .current => some current
      | _ => none
    match (n.get? name).bind PaintValue.parse? with
    | none => if name == "fill" then some (colored .black) else none
    | some .none => none
    | some .current => some current
    | some (.color c) => some (colored c)
    | some .contextFill => s.contextFill.map fun p => ⟨p.source, 1⟩
    | some .contextStroke => s.contextLine.map fun p => ⟨p.source, 1⟩
    | some (.link target fallback) =>
      match s.find target with
      | none => instead fallback
      | some link =>
        if !link.isGradient && link.tag != "pattern" then none
        else
          let found := if link.tag == "pattern" then
              (pattern? fuel s link).map fun p => (⟨.server p, 1⟩ : Painting)
            else (link.gradient? s.find s.view).map fun (source, opacity) => ⟨source, opacity⟩
          match found with
          | none => instead fallback
          | some p =>
            match p.source with
            | .server server => if !hasBox && server.isOnBox then instead fallback else some p
            | _ => some p

/-- What the area of an element is painted with. -/
def fill? : Nat → Setting → Node → Bool → Option Painting
  | 0, _, _, _ => none
  | fuel + 1, s, n, hasBox =>
    if s.clipping then some ⟨.color .black, 1⟩
    else
      let p? := match n.holder? "fill" with
        | some m => painting? fuel s m "fill" hasBox
        | none => some ⟨.color .black, 1⟩
      p?.map fun p => { p with opacity := Node.product p.opacity (n.inheritedShare "fill-opacity") }

/-- What the line of an element is painted with. -/
def line? : Nat → Setting → Node → Bool → Option Painting
  | 0, _, _, _ => none
  | fuel + 1, s, n, hasBox =>
    if s.clipping then none
    else
      ((n.holder? "stroke").bind fun m => painting? fuel s m "stroke" hasBox).map fun p =>
        { p with opacity := Node.product p.opacity (n.inheritedShare "stroke-opacity") }

/-- The pattern that an element describes. Its content is that of the first element of its chain that has
some. -/
def pattern? : Nat → Setting → Node → Option Server
  | 0, _, _ => none
  | fuel + 1, s, n =>
    let chain := (n.chain s.find).takeWhile fun m => m.tag == "pattern"
    match chain.find? fun m => !m.children.isEmpty with
    | none => none
    | some holder =>
      let onBox := (n.giver s.find "patternUnits").isOnBox "patternUnits" true
      let contentOnBox :=
        (n.giver s.find "patternContentUnits").isOnBox "patternContentUnits" false
      let number (name : String) : Float32 := n.given s.find s.view onBox name .zero
      let tile? := (Rect.ofSize? (number "x") (number "y") (number "width")
        (number "height")).bind Rect.nonempty?
      let view := (ViewBox.rectOf? (n.giver s.find "viewBox")).map fun r =>
        (⟨r, Aspect.ofNode (n.giver s.find "preserveAspectRatio")⟩ : ViewBox)
      let place := (n.giver s.find "patternTransform").transform s.view "patternTransform"
      let content := holder.children.flatMap (items fuel s)
      match tile? with
      | none => none
      | some tile =>
        if content.isEmpty then none
        else some (.pattern onBox contentOnBox view tile place content)

/-- What a path shows: its area, its line and its markers, in the order that the element asks for. -/
def pathItems : Nat → Setting → Node → Path → List Item
  | 0, _, _, _ => []
  | fuel + 1, s, n, path =>
    match path.bounds?, path.tightBounds? with
    | some bounds, some box =>
      let hasBox := bounds.width > 0 && bounds.height > 0
      let fill? := fill? fuel s n hasBox
      let stroke? := if s.clipping then none else n.stroke? s.view
      let line? := if stroke?.isSome then line? fuel s n hasBox else none
      let stroke := stroke?.getD ⟨1, 4, .butt, .miter, none⟩
      let lined := if line?.isSome then (path.strokeBounds? stroke).getD box else box
      let look : PathLook := {
        path
        rule := n.fillRule (if s.clipping then "clip-rule" else "fill-rule")
        fillOpacity := (fill?.map Painting.opacity).getD 1
        lineOpacity := (line?.map Painting.opacity).getD 1
        stroke
        smooth := n.isSmooth
        lineFirst := false
        visible := n.isVisible && (fill?.isSome || line?.isSome)
        extent := ⟨box, lined, lined⟩ }
      let paint (p : Option Painting) : Option Paint :=
        p.bind fun p => p.source.paint? box.nonempty?
      let fill := paint fill?
      let line := paint line?
      let markers :=
        if s.clipping || !n.isVisible then [] else markerItems fuel (s.painted fill? line?) n path
      let markers := if markers.isEmpty then [] else [Item.grouped .identity markers]
      let both (lineFirst : Bool) : List Item := [.path { look with lineFirst } fill line]
      let single (l : Node.Layering) : List Item := match l with
        | .fill => if fill.isSome then [.path look fill none] else []
        | .line => if line.isSome then [.path look none line] else []
        | .markers => []
      match n.layering with
      | [.markers, second, _] => markers ++ both (second == .line)
      | [first, .markers, last] => single first ++ markers ++ single last
      | first :: _ => both (first == .line) ++ markers
      | [] => both false ++ markers
    | _, _ => []

def markerItems : Nat → Setting → Node → Path → List Item
  | 0, _, _, _ => []
  | fuel + 1, s, n, path =>
    if !(["line", "path", "polyline", "polygon"].contains n.tag) then []
    else
      [("marker-start", MarkerPlace.start), ("marker-mid", .middle), ("marker-end", .finish)].flatMap
        fun (name, place) =>
          match (n.find? name).bind link? |>.bind s.find with
          | none => []
          | some m =>
            if m.tag != "marker" || s.entered.contains m.element.number then []
            else markersAt fuel s n path m place

def markersAt : Nat → Setting → Node → Path → Node → MarkerPlace → List Item
  | 0, _, _, _, _, _ => []
  | fuel + 1, s, n, path, m, place =>
    let scale := if m.get? "markerUnits" == some "userSpaceOnUse" then 1
      else n.inheritedLength s.view "stroke-width" 1
    let r? := (Rect.ofSize? (s.length m "refX" .zero) (s.length m "refY" .zero)
      (s.length m "markerWidth" ⟨3, .none⟩) (s.length m "markerHeight" ⟨3, .none⟩)).bind Rect.nonempty?
    match r? with
    | none => []
    | some r =>
      if !isPositive scale then []
      else
        let view? := ViewBox.ofNode? m
        let overflow := m.get? "overflow"
        let window := match view? with
          | some v => v.rect
          | none => ⟨0, 0, r.width, r.height⟩
        let clip := if overflow.isNone || overflow == some "hidden" || overflow == some "scroll" then
            some (rectClip window)
          else none
        let content := m.children.flatMap (items fuel (s.entering m))
        if content.isEmpty then []
        else
          (place.vertices (Vertex.ofPath path)).map fun (v, first) =>
            let angle := match m.orientation with
              | .along => v.angle
              | .alongFromStart => if first then
                  (remainder (v.angle + 180).toFloat 360).toFloat32 else v.angle
              | .fixed a => a
            let t := Transform.shift v.point.x v.point.y
            let t := if isWithin 4 angle 0 then t
              else t.after (Matrix.rotation angle.toFloat).toTransform
            let t := match view? with
              | some v =>
                let (sx, sy) := (v.toTransform (r.width * scale) (r.height * scale)).scales
                t.after (.scaling sx sy)
              | none => t.after (.scaling scale scale)
            let t := t.after (.shift (-r.left) (-r.top))
            .group ⟨t, 1, .sourceOver, false, [], Item.extentOf content⟩ clip none [] content

def imageItems : Nat → Setting → Node → Option Rect → List Item
  | 0, _, _, _ => []
  | fuel + 1, s, n, frame =>
    let picture? := (n.get? "href").bind s.pictures
    let visible := n.isVisible
    let found? : Option (Item × Float32 × Float32) := match picture? with
      | none => none
      | some (.raster size layer) =>
        some (.image layer n.imageQuality visible, .ofNat size.width.toNat, .ofNat size.height.toNat)
      | some (.drawing document) =>
        match scene fuel (fun _ => none) document with
        | .error _ => none
        | .ok inner =>
          some (.picture inner.width inner.height visible inner.content, inner.width, inner.height)
    match found? with
    | none => []
    | some (item, w, h) =>
      let width? := n.lengthOf? s.view false "width"
      let height? := n.lengthOf? s.view false "height"
      let (width, height) := match width?, height? with
        | some x, none => (x, h * (x / w))
        | none, some y => (w * (y / h), y)
        | some x, some y => (x, y)
        | none, none => (w, h)
      let own := (Rect.ofSize? (s.length n "x" .zero) (s.length n "y" .zero) width height).bind
        Rect.nonempty?
      match frame <|> own with
      | none => []
      | some r =>
        let aspect := Aspect.ofNode n
        let (fitW, fitH) :=
          if aspect.align.isNone then (r.width, r.height)
          else
            let wide := r.height * w / h
            let byWidth := if aspect.slice then wide ≤ r.width else wide ≥ r.width
            if byWidth then (r.width, r.width * h / w) else (wide, r.height)
        let (x, y) := aspect.corner r.left r.top (r.width - fitW) (r.height - fitH)
        let box : Rect := ⟨x, y, x + fitW, y + fitH⟩
        let placed := Item.grouped ⟨box.width / w, 0, 0, box.height / h, x, y⟩ [item]
        if aspect.slice then
          [.group ⟨.identity, 1, .sourceOver, false, [], Item.extentOf [placed]⟩ (some (rectClip r))
            none [] [placed]]
        else [placed]

/-- The scene of a drawing. A drawing that does not tell its size is as large as what it shows. -/
def scene : Nat → (String → Option Picture) → Document → Except Fault Scene
  | 0, _, _ => .error .tooManyElements
  | fuel + 1, pictures, doc => do
    let root : Node := ⟨doc.root, []⟩
    let (w, h, open') ← root.documentSize
    let view : ViewBox := ⟨(ViewBox.rectOf? root).getD ⟨0, 0, w, h⟩, Aspect.ofNode root⟩
    if !root.isShown then return ⟨w, h, []⟩
    let named := doc.named
    let s : Setting := ⟨fun name => named.lookup name, pictures, view.rect, none, none, false, none,
      none, []⟩
    let content := items fuel s root
    let t := view.toTransform w h
    let content := if t.isIdentity then content else [Item.grouped t content]
    if open' then
      match Item.shapeAllIn? content .identity with
      | some box =>
        if isPositive box.right && isPositive box.bottom then return ⟨box.right, box.bottom, content⟩
        else return ⟨w, h, content⟩
      | none => return ⟨w, h, content⟩
    else return ⟨w, h, content⟩

end

/-- The number of steps that elements may be deep in each other. -/
def maxSteps : Nat := 20000

def Scene.read (library : Library) (content : ByteArray) : Except Fault Scene :=
  (Document.read content).bind (scene maxSteps (Picture.find? library))

end Iconsmith.Svg
