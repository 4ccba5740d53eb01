import Iconsmith.Binary32
import Iconsmith.Geometry.Transform
import Iconsmith.Svg.Links
import Iconsmith.Svg.TransformList

/-!
Lengths of elements in pixels: units, shares of the visible part, sizes of fonts. An inch has 96
pixels.
-/

namespace Iconsmith.Svg

open Iconsmith.Geometry

namespace Node

def dpi : Float32 := 96

/-- The sizes of fonts that have names, as steps from the size around. -/
def fontSteps : List (String × Int) :=
  [("xx-small", -3), ("x-small", -2), ("small", -1), ("medium", 0), ("large", 1), ("x-large", 2),
    ("xx-large", 3), ("smaller", -1), ("larger", 1)]

/-- A power of 1.2, which is the ratio of two neighbouring font sizes. -/
def stepFactor (n : Int) : Float32 :=
  let x : Float32 := 1.2
  let power : Float32 := match n.natAbs with
    | 0 => 1
    | 1 => x
    | 2 => x * x
    | _ => x * (x * x)
  if n < 0 then 1 / power else power

/-- A length in a unit that does not depend on other elements than by the size of the font. -/
def absolute (unit : LengthUnit) (n fontSize percent : Float32) : Float32 :=
  match unit with
  | .none => n
  | .px => n
  | .em => n * fontSize
  | .ex => n * fontSize / 2
  | .inch => n * dpi
  | .cm => n * dpi / 2.54
  | .mm => n * dpi / 25.4
  | .pt => n * dpi / 72
  | .pc => n * dpi / 6
  | .percent => percent

def fontSize (n : Node) : Float32 :=
  n.outwards.reverse.foldl (fun (size : Float32) m =>
    match m.get? "font-size" with
    | none => size
    | some text =>
      match Length.parse? text with
      | some l =>
        let x := Binary32.ofFloat l.value
        absolute l.unit x size (x * size * 0.01)
      | none => size * stepFactor ((fontSteps.lookup text).getD 0)) 12

def horizontal : List String :=
  ["cx", "dx", "fx", "markerWidth", "refX", "rx", "width", "x", "x1", "x2"]

def vertical : List String :=
  ["cy", "dy", "fy", "height", "markerHeight", "refY", "ry", "y", "y1", "y2"]

/-- What hundredths of a property refer to: a side of the visible part, or the mean of both. -/
def whole (view : Rect) (name : String) : Float32 :=
  if horizontal.contains name then view.width
  else if vertical.contains name then view.height
  else ((view.width * view.width + view.height * view.height) / 2).sqrt

/-- A length of an element in pixels. `view` is the visible part, `onBox` says that hundredths are
shares of the box around the element. -/
def pixels (n : Node) (view : Rect) (onBox : Bool) (name : String) (l : Length) : Float32 :=
  let x := Binary32.ofFloat l.value
  absolute l.unit x (if l.unit == .em || l.unit == .ex then n.fontSize else 0)
    (if onBox then x / 100 else whole view name * x / 100)

/-- The length that a property of an element has, if it is one. -/
def lengthOf? (n : Node) (view : Rect) (onBox : Bool) (name : String) : Option Float32 :=
  ((n.get? name).bind Length.parse?).map (n.pixels view onBox name)

def lengthOf (n : Node) (view : Rect) (onBox : Bool) (name : String) (default : Length) : Float32 :=
  n.pixels view onBox name (((n.get? name).bind Length.parse?).getD default)

def inheritedLength (n : Node) (view : Rect) (name : String) (default : Float32) : Float32 :=
  ((n.holder? name).bind (·.lengthOf? view false name)).getD default

/-- The share that a property of an element has, one if it has none. -/
def share (n : Node) (name : String) : Float32 := ((n.get? name).bind share?).getD 1

def inheritedShare (n : Node) (name : String) : Float32 := ((n.find? name).bind share?).getD 1

/-- The share that a property has counts on top of another one. -/
def product (x y : Float32) : Float32 := min (max (x * y) 0) 1

/-! ### Transformations -/

def readOrigin (s : List Char) : Option ((Option String × Length) × List Char) :=
  let s := Svg.skipBlanks s
  let (word, rest) := readWord s
  if ["center", "left", "right", "top", "bottom"].contains word then
    let l : Length := match word with
      | "center" => .percent 50
      | "right" => .percent 100
      | "bottom" => .percent 100
      | _ => .zero
    some ((some word, l), rest)
  else (Length.read s).map fun (l, rest) => ((none, l), rest)

def origin? (text : String) : Option (Length × Length) := do
  let ((word, x), rest) ← readOrigin text.toList
  let upright := word == some "top" || word == some "bottom"
  if isDone rest then
    return if upright then (.percent 50, x) else (x, .percent 50)
  let ((other, y), _) ← readOrigin rest
  return if upright || other == some "left" || other == some "right" then (y, x) else (x, y)

/-- The transformation that a property of an element has. One that flattens counts as none. -/
def transform (n : Node) (view : Rect) (name : String) : Transform :=
  let t := match (n.get? name).bind transform? with
    | some t => if t.isValid then t else .identity
    | none => .identity
  match (n.get? "transform-origin").bind origin? with
  | none => t
  | some (x, y) =>
    let dx := n.pixels view false "width" x
    let dy := n.pixels view false "height" y
    ((Transform.shift dx dy).after t).after (.shift (-dx) (-dy))

/-- The transformation of an element does not flatten. -/
def canTransform (n : Node) : Bool := ((n.get? "transform").bind transform?).all Transform.isValid

end Node
end Iconsmith.Svg
