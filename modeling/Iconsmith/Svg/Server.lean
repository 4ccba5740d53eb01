import Iconsmith.Svg.Scene
import Iconsmith.Svg.ViewBox

/-!
Gradients and patterns as elements describe them. Their lengths may be shares of the box around what is
painted, so a paint is known only together with that box.
-/

namespace Iconsmith.Svg

open Iconsmith.Geometry Raster

/-- A gradient or a pattern that is not tied to a box yet. -/
inductive Server where
  /-- A gradient; its lengths may be shares of the box. -/
  | gradient (onBox : Bool) (g : GradientPaint)
  /-- A pattern; its tile may be in shares of the box, and so may its content. -/
  | pattern (onBox contentOnBox : Bool) (view : Option ViewBox) (tile : Rect) (place : Transform)
      (content : List Item)

/-- What something is painted with before its box is known. -/
inductive Source where
  | color (c : Color)
  | server (s : Server)

namespace Server

/-- Lengths of the gradient or pattern itself are shares of the box. -/
def isOnBox : Server → Bool
  | gradient onBox _ => onBox
  | pattern onBox _ _ _ _ _ => onBox

/-- A rectangle whose lengths are shares of a box. -/
def within (r box : Rect) : Option Rect :=
  (Rect.ofSize? (r.left * box.width + box.left) (r.top * box.height + box.top)
    (r.width * box.width) (r.height * box.height)).bind Rect.nonempty?

/-- The paint for a box. A box without area has none if shares of it are needed. -/
def paint? (s : Server) (box : Option Rect) : Option Paint :=
  match s with
  | gradient false g => some (.gradient g)
  | gradient true g =>
    box.map fun b => .gradient { g with place := (Transform.ofRect b).after g.place }
  | pattern onBox contentOnBox view tile place content =>
    if (onBox || contentOnBox) && box.isNone then none
    else do
      let b := box.getD tile
      let tile ← if onBox then within tile b else some tile
      let content := match view with
        | some v => [Item.grouped (v.toTransform tile.width tile.height) content]
        | none =>
          if contentOnBox then [Item.grouped (.scaling b.width b.height) content] else content
      return .pattern tile place content

end Server

def Source.paint? (s : Source) (box : Option Rect) : Option Paint :=
  match s with
  | color c => some (.color c)
  | server s => s.paint? box

namespace Node

/-- The elements that an element takes missing properties from: itself, the one it refers to, and so
on. -/
def chain (find : String → Option Node) (n : Node) : List Node :=
  let rec go : Nat → Node → List Node
    | 0, _ => []
    | steps + 1, m =>
      match (m.get? "href").bind reference? |>.bind find with
      | none => []
      | some next =>
        if next.element.number == m.element.number || next.element.number == n.element.number then []
        else next :: go steps next
  n :: go 1000 n

def isGradient (n : Node) : Bool := n.tag == "linearGradient" || n.tag == "radialGradient"

/-- The elements of a chain may give a property to the first of them. Coordinates come from elements
of the same kind only. -/
def gives (first : Node) (name : String) (n : Node) : Bool :=
  let coordinates : List String := match first.tag with
    | "linearGradient" => ["x1", "y1", "x2", "y2"]
    | "radialGradient" => ["cx", "cy", "r", "fx", "fy"]
    | _ => []
  if coordinates.contains name || !first.isGradient then n.tag == first.tag else n.isGradient

/-- The first element of a chain that has a property, else the beginning of the chain. -/
def giver (find : String → Option Node) (n : Node) (name : String) : Node :=
  ((n.chain find).find? fun m => n.gives name m && m.has name).getD n

def isOnBox (n : Node) (name : String) (default : Bool) : Bool :=
  match n.get? name with
  | some "objectBoundingBox" => true
  | some "userSpaceOnUse" => false
  | _ => default

def given (find : String → Option Node) (n : Node) (view : Rect) (onBox : Bool) (name : String)
    (default : Length) : Float32 :=
  (n.giver find name).lengthOf view onBox name default

/-- What lies beyond the ends of a gradient. -/
def spread (find : String → Option Node) (n : Node) : Spread :=
  match (n.giver find "spreadMethod").get? "spreadMethod" with
  | some "reflect" => .reflect
  | some "repeat" => .repeated
  | _ => .pad

def colorOf (n : Node) (text : Option String) : Color :=
  match text with
  | some "currentColor" => ((n.find? "color").bind Color.parse?).getD .black
  | some text => (Color.parse? text).getD .black
  | none => .black

def writtenStops (n : Node) : List ColorStop :=
  let rec go : List Node → Float → List ColorStop
    | [], _ => []
    | stop :: rest, previous =>
      let offset : Float := match (stop.get? "offset").bind Length.parse? with
        | none => previous
        | some l =>
          match l.unit with
          | .none => l.value
          | .percent => l.value / 100
          | _ => previous
      let color := stop.colorOf (stop.get? "stop-color")
      ⟨clamp 0 1 offset.toFloat32, color, product color.opacity (stop.share "stop-opacity")⟩ ::
        go rest offset
  go (n.children.filter (·.tag == "stop")) 0

end Node

namespace ColorStop

def near (s t : ColorStop) : Bool := s.offset == t.offset || isWithin 4 s.offset t.offset

/-- Of three stops in one place the middle one is left out. -/
def thin : List ColorStop → List ColorStop
  | s :: t :: u :: rest =>
    if s.near t && t.near u then thin (s :: u :: rest) else s :: thin (t :: u :: rest)
  | rest => rest
termination_by l => l.length

/-- The distance of the smallest single-precision number above one. -/
def epsilon : Float32 := 1 / 8388608

/-- Where stops are not in order, the later one comes to the place of the earlier one, which steps
back a little. -/
def ordered : List ColorStop → List ColorStop
  | s :: t :: rest =>
    if s.offset > t.offset || s.near t then
      { s with offset := clamp 0 1 (s.offset - epsilon) } ::
        ordered ({ t with offset := clamp 0 1 s.offset } :: rest)
    else s :: ordered (t :: rest)
  | rest => rest
termination_by l => l.length

end ColorStop

namespace Node

/-- The stops of a gradient, from the first element of its chain that has some. -/
def stops? (find : String → Option Node) (n : Node) : Option (List ColorStop) :=
  let chain := n.chain find
  let usable := chain.takeWhile isGradient
  (usable.find? fun m => m.children.any (·.tag == "stop")).map fun m =>
    ColorStop.ordered (ColorStop.thin m.writtenStops)

/-- A gradient, or the one colour that it has, with its opacity. -/
def gradient? (find : String → Option Node) (n : Node) (view : Rect) :
    Option (Source × Float32) := do
  let stops ← n.stops? find
  let onBox := (n.giver find "gradientUnits").isOnBox "gradientUnits" true
  let place := (n.giver find "gradientTransform").transform view "gradientTransform"
  let number := n.given find view onBox
  match stops with
  | [] => none
  | [s] => return (.color s.color, s.opacity)
  | stops =>
    if n.tag == "linearGradient" then
      let shape := GradientShape.line ⟨number "x1" .zero, number "y1" .zero⟩
        ⟨number "x2" (.percent 100), number "y2" .zero⟩
      return (.server (.gradient onBox ⟨shape, stops, n.spread find, place⟩), 1)
    else
      let radius := number "r" (.percent 50)
      if !isPositive radius then
        let last ← stops.getLast?
        return (.color last.color, last.opacity)
      else
        let cx := number "cx" (.percent 50)
        let cy := number "cy" (.percent 50)
        let focus : Point := ⟨number "fx" ⟨cx.toFloat, .none⟩, number "fy" ⟨cy.toFloat, .none⟩⟩
        return (.server (.gradient onBox
          ⟨.circle focus ⟨cx, cy⟩ radius, stops, n.spread find, place⟩), 1)

end Node
end Iconsmith.Svg
