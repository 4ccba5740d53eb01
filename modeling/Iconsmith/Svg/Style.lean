import Iconsmith.Svg.Server

/-!
How the properties of an element say that it is drawn.
-/

namespace Iconsmith.Svg

open Iconsmith.Geometry Raster

namespace Node

def blendModes : List (String × BlendMode) :=
  [("multiply", .multiply), ("screen", .screen), ("overlay", .overlay), ("darken", .darken),
    ("lighten", .lighten), ("color-dodge", .colorDodge), ("color-burn", .colorBurn),
    ("hard-light", .hardLight), ("soft-light", .softLight), ("difference", .difference),
    ("exclusion", .exclusion), ("hue", .hue), ("saturation", .saturation), ("color", .color),
    ("luminosity", .luminosity)]

def blend (n : Node) : BlendMode :=
  ((n.get? "mix-blend-mode").bind fun name => blendModes.lookup name).getD .sourceOver

/-- The language that elements are chosen for. -/
def language : String := "en"

/-- The conditions of an element are met: it asks for no extension and for no other language. -/
def meetsConditions (n : Node) : Bool :=
  !n.has "requiredExtensions" &&
    (n.get? "systemLanguage").all fun languages =>
      (languages.splitOn ",").any fun l =>
        let l := trimmed l
        l == language || (l.splitOn "-").head? == some language

def isShown (n : Node) : Bool :=
  n.get? "display" != some "none" && n.canTransform && n.meetsConditions

def isVisible (n : Node) : Bool :=
  n.find? "visibility" != some "hidden" && n.find? "visibility" != some "collapse"

def isSmooth (n : Node) : Bool :=
  n.find? "shape-rendering" != some "optimizeSpeed" && n.find? "shape-rendering" != some "crispEdges"

def fillRule (n : Node) (name : String) : FillRule :=
  if n.find? name == some "evenodd" then .evenOdd else .nonzero

def imageQuality (n : Node) : Quality :=
  match n.find? "image-rendering" with
  | some "optimizeSpeed" => .nearest
  | some "smooth" => .bilinear
  | some "crisp-edges" => .nearest
  | some "pixelated" => .nearest
  | _ => .bicubic

/-- The dashes of a line, unless they have no length. An odd number of lengths is repeated. -/
def dashes? (n : Node) (view : Rect) : Option (List Float32) := do
  let holder ← n.holder? "stroke-dasharray"
  let lengths := (Length.list (← holder.get? "stroke-dasharray")).map
    (holder.pixels view false "stroke-dasharray")
  let isNegative (x : Float32) : Bool := x < 0 || (x == 0 && 1 / x < 0)
  if lengths.any isNegative then none
  else if isWithin 4 (lengths.foldl (· + ·) 0) 0 then none
  else return if lengths.length % 2 = 1 then lengths ++ lengths else lengths

def stroke? (n : Node) (view : Rect) : Option Stroke :=
  let width := n.inheritedLength view "stroke-width" 1
  if !isPositive width then none
  else
    let limit := (((n.find? "stroke-miterlimit").bind number?).map Float.toFloat32).getD 4
    let cap := match n.find? "stroke-linecap" with
      | some "round" => Cap.round
      | some "square" => .square
      | _ => .butt
    let join := match n.find? "stroke-linejoin" with
      | some "miter-clip" => Join.miterClip
      | some "round" => .round
      | some "bevel" => .bevel
      | _ => .miter
    let dash := (n.dashes? view).map fun lengths =>
      (⟨lengths, n.inheritedLength view "stroke-dashoffset" 0⟩ : DashPattern)
    some ⟨width, if limit < 1 then 1 else limit, cap, join, dash⟩

/-- The parts of a path that are drawn one after the other. -/
inductive Layering where
  | fill
  | line
  | markers
deriving DecidableEq, Repr

def layerings : List (String × Layering) :=
  [("fill", .fill), ("stroke", .line), ("markers", .markers)]

/-- The order in which the parts of a path are drawn; parts that are not named follow in the usual
order. -/
def layering (n : Node) : List Layering :=
  let usual := layerings.map Prod.snd
  let words := ((n.find? "paint-order").getD "normal").toList.splitBy fun c d =>
    isBlank c == isBlank d
  let words := (words.filter fun w => !isDone w).map String.ofList
  if words.contains "normal" then usual
  else
    match words.mapM fun w => layerings.lookup w with
    | none => usual
    | some named =>
      let order := named.take 3
      (order ++ usual.filter fun l => !order.contains l).take 3

end Node
end Iconsmith.Svg
