import Iconsmith.Deflate.Gzip
import Iconsmith.Svg.Links
import Iconsmith.Svg.StyleSheet
import Iconsmith.Xml.Reader

/-!
Drawings as trees of elements, read from XML documents, which may be compressed.
-/

namespace Iconsmith.Svg

inductive Fault where
  | malformedGzip
  | notUtf8
  | xml (fault : Xml.Fault)
  | tooManyElements
  | invalidSize
deriving Repr

def Fault.message : Fault → String
  | malformedGzip => "provided data has a malformed GZip content"
  | notUtf8 => "provided data has not an UTF-8 encoding"
  | xml fault => "SVG data parsing failed cause " ++ fault.message
  | tooManyElements => "the maximum number of SVG elements has been reached"
  | invalidSize => "SVG has an invalid size"

structure Document where
  root : Element

namespace Document

def svgUri : String := "http://www.w3.org/2000/svg"

def xlinkUri : String := "http://www.w3.org/1999/xlink"

/-- Elements of drawings are in their namespace or in none. -/
def isDrawn (e : Xml.Element) : Bool :=
  (e.name.space.isNone || e.name.space == some svgUri) && knownTags.contains e.name.label

/-! ### The elements of the XML document -/

def trailsOf (around : Trail) : List Xml.Element → List Xml.Element → List Trail
  | [], _ => []
  | e :: rest, before => (⟨e, before⟩ :: around) :: trailsOf around rest (e :: before)

def childTrails (t : Trail) : List Trail :=
  match t with
  | [] => []
  | spot :: _ => trailsOf t spot.element.childElements []

/-- The trails of an element and all elements inside of it, down to a depth. -/
def trailsWithin : Nat → Trail → List Trail
  | 0, _ => []
  | depth + 1, t => t :: (childTrails t).flatMap (trailsWithin depth)

/-- What all steps of reading a drawing need to know. -/
structure Source where
  rules : List Rule
  /-- The first element with each name. -/
  named : List (String × Trail)

def styleSheets (elements : List Xml.Element) : List String :=
  elements.filterMap fun e =>
    let kind := e.attribute? none "type"
    if e.name.label == "style" && (kind.isNone || kind == some "" || kind == some "text/css") then
      e.leadingText?
    else none

def used? (source : Source) (e : Xml.Element) : Option Trail := do
  let value ← e.attribute? (some xlinkUri) "href" <|> e.attribute? none "href"
  source.named.lookup (← reference? value)

def usesItself (source : Source) (user used : Xml.Element) : Bool :=
  used.descendants.any fun e =>
    e.name == ⟨some svgUri, "use"⟩ &&
      match used? source e with
      | some (spot :: _) =>
        spot.element.number == user.number || spot.element.number == used.number
      | _ => false

/-! ### Properties -/

/-- The value that a property set to `inherit` takes; `around` are the properties of the elements
around, the innermost first. Nothing if the property is left out. -/
def inherited? (around : List (List Property)) (name : String) : Option Property :=
  let found := if isInherited name then
      around.findSome? fun ps => ps.find? (·.name == name)
    else around.head?.bind fun ps => ps.find? (·.name == name)
  match found with
  | some p => some p
  | none => (inheritDefaults.lookup name).join.map (⟨name, ·, false⟩)

/-- The property that a declaration sets, if any. -/
def settled? (around : List (List Property)) (p : Property) : Option Property :=
  if p.name == "style" || p.name == "class" then none
  else if p.value == "inherit" && (inheritDefaults.lookup p.name).isSome then
    inherited? around p.name
  else some p

def attributeProperties (around : List (List Property)) (skipIds : Bool) (e : Xml.Element) :
    List Property :=
  e.attributes.filterMap fun a =>
    let isOurs := match a.name.space with
      | none => true
      | some uri => uri == svgUri || uri == xlinkUri || uri == Xml.xmlUri
    if !isOurs || (skipIds && a.name.label == "id") || styleOnlyProperties.contains a.name.label then
      none
    else settled? around ⟨a.name.label, a.value, false⟩

/-- Replace the first property of the name, or put a new one behind the others. An important property
gives way to important ones only. -/
def place (p : Property) : List Property → List Property
  | [] => [p]
  | q :: rest =>
    if q.name == p.name then (if q.important && !p.important then q else p) :: rest
    else q :: place p rest

def declare (around : List (List Property)) (ps : List Property) (d : Declaration) :
    List Property :=
  let names := if d.name == "marker" then ["marker-start", "marker-mid", "marker-end"]
    else if styleProperties.contains d.name then [d.name] else []
  names.foldl (fun ps name =>
    match settled? around ⟨name, d.value, d.important⟩ with
    | some p => place p ps
    | none => ps) ps

/-- The properties of an element: those of its attributes, then those of style sheets, then those of
its own style. -/
def propertiesOf (source : Source) (around : List (List Property)) (skipIds : Bool) (t : Trail)
    (e : Xml.Element) : List Property :=
  let ps := attributeProperties around skipIds e
  let ps := source.rules.foldl (fun ps rule =>
    if rule.selector.fits t then rule.declarations.foldl (declare around) ps else ps) ps
  match e.attribute? none "style" with
  | some style => (StyleSheet.declarations style).foldl (declare around) ps
  | none => ps

/-! ### The tree -/

/-- The number of elements that have been made. -/
abbrev Making := StateT Nat (Except Fault)

/-- Count an element; there are at most a million. -/
def count : Making Nat := do
  let n ← get
  if n > 1000000 then throw .tooManyElements
  set (n + 1)
  return n

/-- Make the element of a trail with what is in it. `user` is the `use` element around it, if any;
elements may be `depth` deep. -/
def make (source : Source) (user : Option Nat) (around : List (List Property)) :
    Nat → Trail → Making (List Element)
  | 0, _ => throw .tooManyElements
  | _, [] => return []
  | depth + 1, spot :: outer => do
    let e := spot.element
    if !isDrawn e || e.name.label == "style" then return []
    let tag := if e.name.label == "a" then "g" else e.name.label
    let ps := propertiesOf source around user.isSome (spot :: outer) e
    let number ← count
    let inner ← if tag == "text" then pure []
      else if tag == "use" then
        match used? source e, depth with
        | some (target :: targetOuter), depth + 1 =>
          if target.element.number == e.number || user == some target.element.number ||
              !isDrawn target.element || usesItself source e target.element then pure []
          else make source (some e.number) (ps :: around) depth (target :: targetOuter)
        | some _, 0 => throw .tooManyElements
        | _, _ => pure []
      else if depth = 0 && !e.children.isEmpty then throw .tooManyElements
      else
        let made ← (childTrails (spot :: outer)).mapM fun t =>
          make source user (ps :: around) depth t
        pure made.flatten
    return [.mk number tag ps inner]

def maxDepth : Nat := 1025

def parse (text : String) : Except Fault Document := do
  let nodes ← (Xml.parse text).mapError .xml
  let outermost := nodes.filterMap Xml.Node.element?
  let elements := Xml.Node.elementsOf nodes
  let trails := (trailsOf [] outermost []).flatMap (trailsWithin elements.length)
  let named := trails.filterMap fun t =>
    match t with
    | spot :: _ => (spot.element.attribute? none "id").map fun id => (id, t)
    | [] => none
  let source : Source := ⟨StyleSheet.rules (styleSheets elements), named⟩
  let (made, _) ← ((trailsOf [] outermost []).mapM (make source none [] maxDepth)).run 0
  match made.flatten with
  | root :: _ => if root.tag == "svg" then return ⟨root.withoutLoops⟩ else throw (.xml .noRoot)
  | [] => throw (.xml .noRoot)

def read (content : ByteArray) : Except Fault Document := do
  let plain ← if Deflate.isGzip content then
      match Deflate.gunzip? content with
      | some data => pure data
      | none => throw .malformedGzip
    else pure content
  match String.fromUTF8? plain with
  | some text => parse text
  | none => throw .notUtf8

/-- What the images in a drawing refer to. -/
def references (d : Document) : List String :=
  d.root.all.filterMap fun e =>
    if e.tag == "image" || e.tag == "feImage" then e.get? "href" else none

end Document
end Iconsmith.Svg
