import Iconsmith.Svg.Lengths
import Iconsmith.Svg.PathData

/-!
The paths of shapes.
-/

namespace Iconsmith.Svg

open Iconsmith.Geometry

/-- Draw a quarter of an upright ellipse, clockwise. -/
def quarterTo (path : Path) (rx ry x y : Float32) : Path :=
  match path.lastPoint? with
  | none => path
  | some p =>
    (⟨⟨p.x.toFloat, p.y.toFloat⟩, ⟨x.toFloat, y.toFloat⟩, ⟨rx.toFloat, ry.toFloat⟩, 0, false,
      true⟩ : EndpointArc).draw path

def ellipse (cx cy rx ry : Float32) : Path :=
  let path := Path.empty.moveTo ⟨cx + rx, cy⟩
  let path := quarterTo path rx ry cx (cy + ry)
  let path := quarterTo path rx ry (cx - rx) cy
  let path := quarterTo path rx ry cx (cy - ry)
  (quarterTo path rx ry (cx + rx) cy).close

def roundedRect (x y width height rx ry : Float32) : Path :=
  let path := (Path.empty.moveTo ⟨x + rx, y⟩).lineTo ⟨x + width - rx, y⟩
  let path := quarterTo path rx ry (x + width) (y + ry)
  let path := path.lineTo ⟨x + width, y + height - ry⟩
  let path := quarterTo path rx ry (x + width - rx) (y + height)
  let path := path.lineTo ⟨x + rx, y + height⟩
  let path := quarterTo path rx ry x (y + height - ry)
  let path := path.lineTo ⟨x, y + ry⟩
  (quarterTo path rx ry (x + rx) y).close

namespace Node

/-- The radii of an ellipse or of round corners. One that is not given is as large as the other. -/
def radii (n : Node) (view : Rect) : Float32 × Float32 :=
  let radius (name : String) : Option Float32 :=
    match (n.get? name).bind Length.parse? with
    | some l => if l.value < 0 || (l.value == 0 && 1 / l.value < 0) then none
      else some (n.pixels view false name l)
    | none => none
  match radius "rx", radius "ry" with
  | none, none => (0, 0)
  | some rx, none => (rx, rx)
  | none, some ry => (ry, ry)
  | some rx, some ry => (rx, ry)

/-- The corners of a row of lines; at least two. -/
def corners? (n : Node) : Option Path :=
  match (points ((n.get? "points").getD "")).map fun (x, y) => (⟨x.toFloat32, y.toFloat32⟩ : Point) with
  | p :: q :: rest => some ((q :: rest).foldl Path.lineTo (Path.empty.moveTo p))
  | _ => none

def rectPath? (n : Node) (view : Rect) : Option Path :=
  let number (name : String) : Float32 := n.lengthOf view false name .zero
  let width := number "width"
  let height := number "height"
  if !isPositive width || !isPositive height then none
  else
    let x := number "x"
    let y := number "y"
    let (rx, ry) := n.radii view
    let rx := if rx > width / 2 then width / 2 else rx
    let ry := if ry > height / 2 then height / 2 else ry
    if isWithin 4 rx 0 && isWithin 4 ry 0 then (Rect.ofSize? x y width height).map Path.ofRect
    else some (roundedRect x y width height rx ry)

/-- The path of a shape. Nothing if the element is no shape or its shape is empty. -/
def shape? (n : Node) (view : Rect) : Option Path :=
  let number (name : String) : Float32 := n.lengthOf view false name .zero
  let path? := match n.tag with
    | "rect" => n.rectPath? view
    | "circle" =>
      let r := number "r"
      if isPositive r then some (ellipse (number "cx") (number "cy") r r) else none
    | "ellipse" =>
      let (rx, ry) := n.radii view
      if isPositive rx && isPositive ry then some (ellipse (number "cx") (number "cy") rx ry) else none
    | "line" =>
      some ((Path.empty.moveTo ⟨number "x1", number "y1"⟩).lineTo ⟨number "x2", number "y2"⟩)
    | "polyline" => n.corners?
    | "polygon" => n.corners?.map Path.close
    | "path" => (n.get? "d").map PathData.path
    | _ => none
  path?.bind Path.drawable?

end Node
end Iconsmith.Svg
