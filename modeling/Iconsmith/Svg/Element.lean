/-!
Elements of a drawing. Styles are applied already, so an element has one row of properties, and the
content of a `use` element is what it refers to.
-/

namespace Iconsmith.Svg

structure Property where
  name : String
  value : String
  /-- Set by a declaration that others do not replace. -/
  important : Bool
deriving Inhabited, Repr

/-- An element. No two elements of a drawing have the same number. -/
inductive Element where
  | mk (number : Nat) (tag : String) (properties : List Property) (children : List Element)
deriving Inhabited

namespace Element

def number : Element → Nat
  | mk n _ _ _ => n

def tag : Element → String
  | mk _ t _ _ => t

/-- The properties of an element; the first of a name counts. -/
def properties : Element → List Property
  | mk _ _ ps _ => ps

def children : Element → List Element
  | mk _ _ _ cs => cs

def get? (e : Element) (name : String) : Option String :=
  (e.properties.find? (·.name == name)).map Property.value

def has (e : Element) (name : String) : Bool := (e.get? name).isSome

def id (e : Element) : String := (e.get? "id").getD ""

end Element

/-- The kinds of elements that drawings are made of; others are left out with their content. -/
def knownTags : List String :=
  ["a", "circle", "clipPath", "defs", "ellipse", "feBlend", "feColorMatrix", "feComponentTransfer",
    "feComposite", "feConvolveMatrix", "feDiffuseLighting", "feDisplacementMap", "feDistantLight",
    "feDropShadow", "feFlood", "feFuncA", "feFuncB", "feFuncG", "feFuncR", "feGaussianBlur",
    "feImage", "feMerge", "feMergeNode", "feMorphology", "feOffset", "fePointLight",
    "feSpecularLighting", "feSpotLight", "feTile", "feTurbulence", "filter", "g", "image", "line",
    "linearGradient", "marker", "mask", "path", "pattern", "polygon", "polyline", "radialGradient",
    "rect", "stop", "style", "svg", "switch", "symbol", "text", "textPath", "tref", "tspan", "use"]

def graphicTags : List String :=
  ["a", "circle", "ellipse", "g", "image", "line", "path", "polygon", "polyline", "rect", "switch",
    "text", "use"]

def styleProperties : List String :=
  ["alignment-baseline", "background-color", "baseline-shift", "clip-path", "clip-rule", "color",
    "color-interpolation", "color-interpolation-filters", "color-rendering", "direction", "display",
    "dominant-baseline", "fill", "fill-opacity", "fill-rule", "filter", "flood-color",
    "flood-opacity", "font-family", "font-kerning", "font-size", "font-size-adjust", "font-stretch",
    "font-style", "font-variant", "font-weight", "glyph-orientation-horizontal",
    "glyph-orientation-vertical", "image-rendering", "isolation", "letter-spacing",
    "lighting-color", "marker-end", "marker-mid", "marker-start", "mask", "mask-type",
    "mix-blend-mode", "opacity", "overflow", "paint-order", "pointer-events", "shape-rendering",
    "stop-color", "stop-opacity", "stroke", "stroke-dasharray", "stroke-dashoffset",
    "stroke-linecap", "stroke-linejoin", "stroke-miterlimit", "stroke-opacity", "stroke-width",
    "text-anchor", "text-decoration", "text-overflow", "text-rendering", "transform",
    "transform-box", "transform-origin", "unicode-bidi", "vector-effect", "visibility",
    "white-space", "word-spacing", "writing-mode"]

def styleOnlyProperties : List String := ["font-kerning", "isolation", "mix-blend-mode"]

/-- Properties of styles that elements do not take from all elements around them. -/
def ownProperties : List String :=
  ["alignment-baseline", "baseline-shift", "clip-path", "display", "dominant-baseline", "filter",
    "flood-color", "flood-opacity", "lighting-color", "mask", "opacity", "overflow", "stop-color",
    "stop-opacity", "text-decoration", "transform", "transform-box", "transform-origin",
    "unicode-bidi"]

def isInherited (name : String) : Bool :=
  styleProperties.contains name && !ownProperties.contains name

/-- Properties with a value that is taken from around if they are set to `inherit`, and what they are if
it is found nowhere. -/
def inheritDefaults : List (String × Option String) :=
  [("alignment-baseline", none), ("baseline-shift", some "baseline"), ("clip-path", some "none"),
    ("clip-rule", some "nonzero"), ("color", none),
    ("color-interpolation-filters", some "linearRGB"), ("direction", some "ltr"),
    ("display", some "inline"), ("dominant-baseline", none), ("fill", some "black"),
    ("fill-opacity", some "1"), ("fill-rule", some "nonzero"), ("filter", some "none"),
    ("flood-color", some "black"), ("flood-opacity", some "1"), ("font-family", none),
    ("font-kerning", none), ("font-size", some "medium"), ("font-stretch", some "normal"),
    ("font-style", some "normal"), ("font-variant", some "normal"), ("font-weight", some "normal"),
    ("image-rendering", some "auto"), ("kerning", none), ("letter-spacing", some "normal"),
    ("marker-end", some "none"), ("marker-mid", some "none"), ("marker-start", some "none"),
    ("mask", some "none"), ("opacity", some "1"), ("overflow", some "visible"),
    ("shape-rendering", some "auto"), ("stop-color", some "black"), ("stop-opacity", some "1"),
    ("stroke", some "none"), ("stroke-dasharray", some "none"), ("stroke-dashoffset", some "0"),
    ("stroke-linecap", some "butt"), ("stroke-linejoin", some "miter"),
    ("stroke-miterlimit", some "4"), ("stroke-opacity", some "1"), ("stroke-width", some "1"),
    ("text-anchor", some "start"), ("text-decoration", some "none"),
    ("text-rendering", some "auto"), ("visibility", some "visible"),
    ("word-spacing", some "normal"), ("writing-mode", some "lr-tb")]

end Iconsmith.Svg
