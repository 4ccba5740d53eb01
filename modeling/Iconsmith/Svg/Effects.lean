import Iconsmith.Effect.Basic
import Iconsmith.Svg.Server
import Iconsmith.Svg.Style

/-!
Effects as elements and properties describe them. A property holds a list of functions and of links to
`filter` elements, whose children are the steps.
-/

namespace Iconsmith.Svg

open Iconsmith.Geometry Raster

def readNumbers : Nat → List Char → Option (List Float32)
  | 0, _ => none
  | fuel + 1, s =>
    if isDone s then some []
    else
      (readListNumber s).bind fun (x, rest) => (readNumbers fuel rest).map (x.toFloat32 :: ·)

def numbers? (s : String) : Option (List Float32) := readNumbers (s.length + 1) s.toList

namespace Node

def number (n : Node) (name : String) (default : Float32) : Float32 :=
  ((n.get? name).bind number?).elim default Float.toFloat32

def numbers? (n : Node) (name : String) : Option (List Float32) := (n.get? name).bind Svg.numbers?

/-- A number is zero or above and not the negative zero. -/
def isUnsigned (x : Float32) : Bool := x > 0 || (x == 0 && 1 / x > 0)

def faded (c : Color) (opacity : Float32) : Pixel :=
  ⟨c.r, c.g, c.b, (product c.opacity opacity * 255 + 0.5).toUInt8⟩

def floodColor (n : Node) : Pixel :=
  faded (((n.get? "flood-color").bind Color.parse?).getD .black) (n.share "flood-opacity")

def deviations (n : Node) (scaleX scaleY : Float32) (default : String) : Float32 × Float32 :=
  let text := ((n.get? "stdDeviation").getD default)
  let first := readListNumber text.toList
  let second := first.bind fun (_, rest) => readListNumber rest
  let more := second.any fun (_, rest) => !isDone rest
  let (x, y) : Float × Float := match first, second with
    | some (x, _), some (y, _) => (x, y)
    | some (x, _), none => (x, x)
    | none, _ => (0, 0)
  let x := x.toFloat32 * scaleX
  let y := y.toFloat32 * scaleY
  if !more && isUnsigned x && isUnsigned y then (x, y) else (0, 0)

/-- The lamp of a light: the first child that is one. -/
def lamp? (n : Node) : Option Effect.Lamp :=
  let lamps := ["feDistantLight", "fePointLight", "feSpotLight"]
  (n.children.find? fun c => lamps.contains c.tag).map fun c =>
    let vector (x y z : String) : Effect.Vector := ⟨c.number x 0, c.number y 0, c.number z 0⟩
    match c.tag with
    | "feDistantLight" => .distant (c.number "azimuth" 0) (c.number "elevation" 0)
    | "fePointLight" => .point (vector "x" "y" "z")
    | _ =>
      let exponent := c.number "specularExponent" 1
      .spot (vector "x" "y" "z") (vector "pointsAtX" "pointsAtY" "pointsAtZ")
        (if isUnsigned exponent then exponent else 1)
        (((c.get? "limitingConeAngle").bind number?).map Float.toFloat32)

def lightColor (n : Node) : Pixel :=
  let c := match n.get? "lighting-color" with
    | some "currentColor" => ((n.find? "color").bind Color.parse?).getD .black
    | some text => (Color.parse? text).getD ⟨255, 255, 255, 255⟩
    | none => ⟨255, 255, 255, 255⟩
  ⟨c.r, c.g, c.b, 255⟩

def transfer? (n : Node) : Option Effect.Transfer :=
  match n.get? "type" with
  | some "identity" => some .identity
  | some "table" => some (.table ((n.numbers? "tableValues").getD []))
  | some "discrete" => some (.discrete ((n.numbers? "tableValues").getD []))
  | some "linear" => some (.linear (n.number "slope" 1) (n.number "intercept" 0))
  | some "gamma" =>
    some (.gamma (n.number "amplitude" 1) (n.number "exponent" 1) (n.number "offset" 0))
  | _ => none

/-- The function that a child gives for a part; the last one counts. -/
def transferOf (n : Node) (tag : String) : Effect.Transfer :=
  ((n.children.filter (·.tag == tag)).filterMap transfer?).getLast?.getD .identity

def colorMatrix (n : Node) : Effect.ColorMatrix :=
  let values := n.numbers? "values"
  match n.get? "type" with
  | some "saturate" =>
    values.elim .identity fun v => .saturate (Effect.clamp 0 (v.headD 1) 1)
  | some "hueRotate" => values.elim .identity fun v => .hueRotate (v.headD 0)
  | some "luminanceToAlpha" => .luminanceToAlpha
  | _ =>
    match values with
    | some v => if v.length = 20 then .full v else .identity
    | none => .identity

def kernel? (n : Node) : Option Effect.Kernel := do
  let order := ((n.numbers? "order").getD []).map fun x => x.toUInt32.toNat
  let columns := order.headD 3
  let rows := order.getD 1 columns
  let target (name : String) (count : Nat) : Option Nat :=
    let place := (n.number name (Float32.ofNat (count / 2))).toInt32.toInt
    if 0 ≤ place ∧ place < count then some place.toNat else none
  let weights := (n.numbers? "kernelMatrix").getD []
  let sum := ((weights.foldl (· + ·) 0) * 1000000).round / 1000000
  let divisor := n.number "divisor" (if isWithin 4 sum 0 then 1 else sum)
  if isWithin 4 divisor 0 || weights.length != columns * rows then none
  let targetX ← target "targetX" columns
  let targetY ← target "targetY" rows
  let edge : Effect.Edge := match n.get? "edgeMode" with
    | some "none" => .nothing
    | some "wrap" => .wrapped
    | _ => .nearest
  return ⟨columns, rows, targetX, targetY, weights, divisor, n.number "bias" 0, edge,
    n.get? "preserveAlpha" == some "true"⟩

/-- The radii of the rectangles whose extremes are taken. -/
def extremeRadii (n : Node) (scaleX scaleY : Float32) : Float32 × Float32 :=
  match n.numbers? "radius" with
  | none => (scaleX, scaleY)
  | some list =>
    let (x, y) : Float32 × Float32 := match list with
      | [x] => (x, x)
      | [x, y] => (x, y)
      | _ => (0, 0)
    let x := if isWithin 4 x 0 then 1 else x
    let y := if isWithin 4 y 0 then 1 else y
    if isUnsigned x && isUnsigned y then (x * scaleX, y * scaleY) else (scaleX, scaleY)

def channel (n : Node) (name : String) : Effect.Channel :=
  match n.get? name with
  | some "R" => .red
  | some "G" => .green
  | some "B" => .blue
  | _ => .alpha

def noise (n : Node) : Effect.Noise :=
  let (x, y) : Float32 × Float32 := match n.numbers? "baseFrequency" with
    | some [x] => (x, x)
    | some [x, y] => (x, y)
    | _ => (0, 0)
  let (x, y) : Float32 × Float32 := if isUnsigned x && isUnsigned y then (x, y) else (0, 0)
  let octaves := (n.number "numOctaves" 1).round.toUInt32.toNat
  let seed := (n.number "seed" 0).toInt32.toInt
  ⟨x.toFloat, y.toFloat, octaves, seed, n.get? "stitchTiles" == some "stitch",
    n.get? "type" == some "fractalNoise"⟩

end Node

/-! ### Steps -/

/-- What steps need to know of the steps before them: their names, the number of the next name, and the
pictures that they show. -/
structure Steps where
  steps : List Effect.Step
  names : List String
  nextName : Nat
  given : List String
  /-- The elements whose pictures are shown, and where. -/
  pictures : List (Node × Rect)

namespace Steps

/-- The step of a name; of several the last one. -/
def indexOf? (s : Steps) (name : String) : Option Nat :=
  (s.names.reverse.findIdx? (· == name)).map fun i => s.names.length - 1 - i

/-- The last step, or the drawing if there is none. -/
def previous (s : Steps) : Effect.Input :=
  if s.steps.isEmpty then .drawing else .step (s.steps.length - 1)

def input (s : Steps) (n : Node) (name : String) : Effect.Input :=
  match n.get? name with
  | none => s.previous
  | some "SourceGraphic" => .drawing
  | some "SourceAlpha" => .silhouette
  | some "BackgroundImage" => .drawing
  | some "BackgroundAlpha" => .drawing
  | some "FillPaint" => .drawing
  | some "StrokePaint" => .drawing
  | some other => ((s.indexOf? other).map Effect.Input.step).getD s.previous

/-- The first name with a number that is not taken. -/
def freshName (taken : List String) : Nat → Nat → String × Nat
  | 0, n => (s!"result{n}", n + 1)
  | fuel + 1, n =>
    let name := s!"result{n}"
    if taken.contains name then freshName taken fuel (n + 1) else (name, n + 1)

def nothing : Effect.Kind := .flood ⟨0, 0, 0, 0⟩

/-- What a step does. Lengths are stretched by the sides of the box if they are shares of it. A picture
is the next one of those shown. -/
def kind (s : Steps) (n : Node) (scaleX scaleY : Float32) (pictures : Nat) : Option Effect.Kind :=
  let i := s.input n "in"
  let j := s.input n "in2"
  let dx (default : Float32) : Float32 := n.number "dx" default * scaleX
  let dy (default : Float32) : Float32 := n.number "dy" default * scaleY
  match n.tag with
  | "feDropShadow" =>
    let (x, y) := n.deviations scaleX scaleY "2 2"
    some (.shadow i (dx 2) (dy 2) x y n.floodColor)
  | "feGaussianBlur" =>
    let (x, y) := n.deviations scaleX scaleY "0 0"
    some (.blur i x y)
  | "feOffset" => some (.offset i (dx 0) (dy 0))
  | "feBlend" =>
    some (.blend (((n.get? "mode").bind fun m => Node.blendModes.lookup m).getD .sourceOver) i j)
  | "feFlood" => some (.flood n.floodColor)
  | "feComposite" =>
    match n.get? "operator" with
    | some "in" => some (.blend .sourceIn i j)
    | some "out" => some (.blend .sourceOut i j)
    | some "atop" => some (.blend .sourceAtop i j)
    | some "xor" => some (.blend .xor i j)
    | some "arithmetic" =>
      some (.arithmetic (n.number "k1" 0) (n.number "k2" 0) (n.number "k3" 0) (n.number "k4" 0) i j)
    | _ => some (.blend .sourceOver i j)
  | "feMerge" => some (.merge (n.children.map fun c => s.input c "in"))
  | "feTile" => some (.tile i)
  | "feImage" => some (.picture (pictures + s.pictures.length))
  | "feComponentTransfer" =>
    some (.transfer i (n.transferOf "feFuncR") (n.transferOf "feFuncG") (n.transferOf "feFuncB")
      (n.transferOf "feFuncA"))
  | "feColorMatrix" => some (.recolor i n.colorMatrix)
  | "feConvolveMatrix" => some (n.kernel?.elim nothing (.convolve i))
  | "feMorphology" =>
    let (x, y) := n.extremeRadii scaleX scaleY
    some (.morphology i (n.get? "operator" == some "dilate") x y)
  | "feDisplacementMap" =>
    let scale := n.number "scale" 0 * ((scaleX + scaleY) / 2)
    some (.displace scale (n.channel "xChannelSelector") (n.channel "yChannelSelector") i j)
  | "feTurbulence" => some (.noise n.noise)
  | "feDiffuseLighting" =>
    some (n.lamp?.elim nothing fun lamp =>
      .light i ⟨lamp, .diffuse (n.number "diffuseConstant" 1), n.number "surfaceScale" 1,
        n.lightColor⟩)
  | "feSpecularLighting" =>
    let exponent := n.number "specularExponent" 1
    some (if exponent < 1 || exponent > 128 then nothing
      else n.lamp?.elim nothing fun lamp =>
        .light i ⟨lamp, .specular (n.number "specularConstant" 1) exponent,
          n.number "surfaceScale" 1, n.lightColor⟩)
  | _ => none

/-- Where a step counts. -/
def region? (n : Node) (view : Rect) (onBox : Bool) (box : Option Rect) (whole : Rect) :
    Option Rect :=
  let length (name : String) : Option Float32 := n.lengthOf? view false name
  let share := (Rect.ofSize? ((length "x").getD 0) ((length "y").getD 0)
    ((length "width").getD 1) ((length "height").getD 1)).bind Rect.nonempty?
  if onBox && (n.tag == "feFlood" || n.tag == "feImage") then
    box.bind fun b => share.bind (Server.within · b)
  else if onBox then share.bind (Server.within whole ·)
  else
    (Rect.ofSize? ((length "x").getD whole.left) ((length "y").getD whole.top)
      ((length "width").getD whole.width) ((length "height").getD whole.height)).bind Rect.nonempty?

/-- Add the step of an element. One that is no step, or has no region, is left out. -/
def add (view : Rect) (onBox : Bool) (box : Option Rect) (whole : Rect) (pictures : Nat) (s : Steps)
    (n : Node) : Steps :=
  let (scaleX, scaleY) : Float32 × Float32 := match onBox, box with
    | true, some b => (b.width, b.height)
    | _, _ => (1, 1)
  match s.kind n scaleX scaleY pictures, region? n view onBox box whole with
  | some kind, some region =>
    let space := if n.find? "color-interpolation-filters" == some "sRGB" then .stored
      else .linear
    let (name, nextName, given) := match n.get? "result" with
      | some name => (name, s.nextName + 1, name :: s.given)
      | none =>
        let (name, next) := freshName s.given s.given.length s.nextName
        (name, next, s.given)
    let shown := match kind with
      | .picture _ => s.pictures ++ [(n, region)]
      | _ => s.pictures
    ⟨s.steps ++ [⟨kind, region, space⟩], s.names ++ [name], nextName, given, shown⟩
  | _, _ => s

end Steps

/-! ### Functions -/

/-- A length that is no share. -/
def readFixedLength : Reader Length := fun s =>
  (Length.read s).bind fun (l, rest) => if l.unit == .percent then none else some (l, skipBlanks rest)

/-- An amount as a number or in hundredths, one if it is left out. -/
def readAmount : Reader Float32 := fun s =>
  match skipBlanks s with
  | ')' :: rest => some (1, ')' :: rest)
  | s =>
    (readNumber s).bind fun (x, rest) =>
      let (x, rest) := match rest with
        | '%' :: rest => (x / 100, rest)
        | rest => (x, rest)
      if x < 0 || (x == 0 && 1 / x < 0) then none else some (x.toFloat32, skipBlanks rest)

/-- An angle in degrees, zero if it is left out. Only zero needs no unit. -/
def readAngle : Reader Float32 := fun s =>
  match skipBlanks s with
  | ')' :: rest => some (0, ')' :: rest)
  | s =>
    (readNumber s).bind fun (x, rest) =>
      let units : List (String × Float) :=
        [("deg", 1), ("grad", 180 / 200), ("rad", 180 / 3.141592653589793), ("turn", 360)]
      match units.findSome? fun (name, k) => (after? name rest).map fun rest => (k, rest) with
      | some (k, rest) => some ((x * k).toFloat32, skipBlanks rest)
      | none => if x == 0 then some (0, skipBlanks rest) else none

/-- The rows of a matrix of the three colours, completed by alpha. -/
def withAlpha : List Float32 → List Float32
  | [a, b, c, d, e, f, g, h, i] => [a, b, c, 0, 0, d, e, f, 0, 0, g, h, i, 0, 0, 0, 0, 0, 1, 0]
  | other => other

def grayscale (amount : Float32) : Effect.ColorMatrix :=
  let k := 1 - min amount 1
  .full (withAlpha [0.2126 + 0.7874 * k, 0.7152 - 0.7152 * k, 0.0722 - 0.0722 * k,
    0.2126 - 0.2126 * k, 0.7152 + 0.2848 * k, 0.0722 - 0.0722 * k, 0.2126 - 0.2126 * k,
    0.7152 - 0.7152 * k, 0.0722 + 0.9278 * k])

def sepia (amount : Float32) : Effect.ColorMatrix :=
  let k := 1 - min amount 1
  .full (withAlpha [0.393 + 0.607 * k, 0.769 - 0.769 * k, 0.189 - 0.189 * k, 0.349 - 0.349 * k,
    0.686 + 0.314 * k, 0.168 - 0.168 * k, 0.272 - 0.272 * k, 0.534 - 0.534 * k, 0.131 + 0.869 * k])

/-- One function for all three colours. -/
def onColors (f : Effect.Transfer) : Effect.Kind := .transfer .drawing f f f .identity

/-- A shadow that a function describes. Its colour may stand in front of the lengths or behind them. -/
def readShadow (n : Node) (view : Rect) : Reader Effect.Kind := fun s =>
  let s := skipBlanks s
  let (before, s) := match Color.read s with
    | some (c, rest) => (some c, skipBlanks rest)
    | none => (none, s)
  (readFixedLength s).bind fun (x, rest) =>
    (readFixedLength rest).bind fun (y, rest) =>
      let (deviation, rest) := (readFixedLength rest).getD (.zero, rest)
      if deviation.value < 0 then none
      else
        let (behind, rest) := match before, Color.read rest with
          | none, some (c, rest) => (some c, skipBlanks rest)
          | _, _ => (before, rest)
        let color := (behind <|> (n.find? "color").bind Color.parse?).getD .black
        let pixels (l : Length) : Float32 := n.pixels view false "dx" l
        let d := pixels deviation
        some (.shadow .drawing (pixels x) (pixels y) d d (Node.faded color 1), rest)

/-- The function of a name, with the parenthesis that opens its arguments read already. -/
def readFunction (n : Node) (view : Rect) (name : String) : Reader Effect.Kind := fun s =>
  let amount (f : Float32 → Effect.Kind) : Option (Effect.Kind × List Char) :=
    (readAmount s).map fun (x, rest) => (f x, rest)
  match name with
  | "blur" =>
    match skipBlanks s with
    | ')' :: rest => some (.blur .drawing 0 0, ')' :: rest)
    | s =>
      (readFixedLength s).bind fun (l, rest) =>
        if l.value < 0 then none
        else
          let d := n.pixels view false "dx" l
          some (.blur .drawing d d, rest)
  | "drop-shadow" => readShadow n view s
  | "brightness" => amount fun x => onColors (.linear x 0)
  | "contrast" => amount fun x => onColors (.linear x (-(0.5 * x) + 0.5))
  | "grayscale" => amount fun x => .recolor .drawing (grayscale x)
  | "sepia" => amount fun x => .recolor .drawing (sepia x)
  | "saturate" => amount fun x => .recolor .drawing (.saturate x)
  | "invert" => amount fun x => onColors (.table [min x 1, 1 - min x 1])
  | "opacity" =>
    amount fun x => .transfer .drawing .identity .identity .identity (.table [0, min x 1])
  | "hue-rotate" => (readAngle s).map fun (x, rest) => (.recolor .drawing (.hueRotate x), rest)
  | _ => none

inductive EffectValue where
  | function (k : Effect.Kind)
  | link (name : String)

/-- The functions and links of a property. Nothing if it cannot be read. -/
def readEffects (n : Node) (view : Rect) : Nat → List Char → Option (List EffectValue)
  | 0, _ => none
  | fuel + 1, s =>
    let s := skipBlanks s
    if s.isEmpty then some []
    else
      match readLink s with
      | some (name, rest) => (readEffects n view fuel rest).map (.link name :: ·)
      | none => do
        let (name, rest) := readWord s
        let rest ← expect '(' (skipBlanks rest)
        let (k, rest) ← readFunction n view name rest
        let rest ← expect ')' (skipBlanks rest)
        (readEffects n view fuel rest).map (.function k :: ·)

/-! ### Effects of elements -/

structure Effects where
  effects : List Effect
  pictures : List (Node × Rect)

namespace Effects

def empty : Effects := ⟨[], []⟩

/-- The effect of a function. A blur reaches far beyond the box of the element, others only a little. -/
def ofFunction? (k : Effect.Kind) (box : Option Rect) : Option Effect :=
  box.map fun b =>
    let low := -k.margin
    let high := low + (1 + 2 * k.margin)
    let share : Rect := ⟨low, low, high, high⟩
    let region := (Server.within share b).getD share
    ⟨region, [⟨k, region, .stored⟩]⟩

/-- The element whose children are the steps of an effect. -/
def holder? (find : String → Option Node) (n : Node) : Option Node :=
  let chain := (n.chain find).takeWhile fun m => m.tag == "filter"
  chain.find? fun m => !m.children.isEmpty

/-- The effect of an element, with the pictures that it shows behind those of other effects. -/
def ofNode? (find : String → Option Node) (view : Rect) (n : Node) (box : Option Rect)
    (before : Nat) : Option (Effect × List (Node × Rect)) := do
  let onBox := n.isOnBox "filterUnits" true
  let stepsOnBox := n.isOnBox "primitiveUnits" false
  let number (name : String) (percent : Float) : Float32 :=
    n.lengthOf view onBox name (.percent percent)
  let region ← (Rect.ofSize? (number "x" (-10)) (number "y" (-10)) (number "width" 120)
    (number "height" 120)).bind Rect.nonempty?
  let region ← if onBox then box.bind (Server.within region ·) else some region
  let holder ← holder? find n
  let made := holder.children.foldl (Steps.add view stepsOnBox box region before) ⟨[], [], 1, [], []⟩
  if made.steps.isEmpty then none else return (⟨region, made.steps⟩, made.pictures)

/-- The effects of an element around whose shapes there is a box. Nothing if it is not drawn, which is
so if the property holds links but no effect that is valid. -/
def of? (find : String → Option Node) (view : Rect) (n : Node) (box : Option Rect) :
    Option Effects :=
  match n.get? "filter" with
  | none => some empty
  | some "none" => some empty
  | some text =>
    match readEffects n view (text.length + 1) text.toList with
    | none => some empty
    | some values =>
      let (found, broken) := values.foldl (fun ((found : Effects), (broken : Bool)) v =>
        match v with
        | .function k =>
          (match ofFunction? k box with
            | some e => { found with effects := found.effects ++ [e] }
            | none => found, broken)
        | .link name =>
          match (find name).bind fun m => ofNode? find view m box found.pictures.length with
          | some (e, pictures) =>
            (⟨found.effects ++ [e], found.pictures ++ pictures⟩, broken)
          | none => (found, true)) (empty, false)
      if found.effects.isEmpty && broken then none else some found

def reach? (e : Effects) : Option Rect :=
  e.effects.foldl (fun r f => Rect.union? r (some f.region)) none

end Effects
end Iconsmith.Svg
