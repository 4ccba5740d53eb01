import Iconsmith.Svg.Color
import Iconsmith.Svg.Element

/-!
Links between the elements of a drawing. An element that would be drawn as a part of itself loses the
link that leads back to it.
-/

namespace Iconsmith.Svg

/-- An element together with the elements around it, the innermost first. -/
structure Node where
  element : Element
  around : List Element
deriving Inhabited

namespace Element

mutual

def all : Element → List Element
  | mk number tag properties children => mk number tag properties children :: allOf children

def allOf : List Element → List Element
  | [] => []
  | e :: rest => e.all ++ allOf rest

end

mutual

/-- Set the first property of a name of the element with a number. -/
def set (target : Nat) (name value : String) : Element → Element
  | mk number tag properties children =>
    let replace (ps : List Property) : List Property :=
      let rec go : List Property → List Property
        | [] => []
        | p :: rest => if p.name == name then { p with value } :: rest else p :: go rest
      go ps
    mk number tag (if number == target then replace properties else properties)
      (setIn target name value children)

/-- Set a property of an element among some. -/
def setIn (target : Nat) (name value : String) : List Element → List Element
  | [] => []
  | e :: rest => set target name value e :: setIn target name value rest

end

/-- The element with a name; of several the last one. -/
def named? (all : List Element) (name : String) : Option Element :=
  if name.isEmpty then none else (all.reverse.find? fun e => e.get? "id" == some name)

def linked? (all : List Element) (e : Element) (property : String) : Option Element := do
  named? all (← link? (← e.get? property))

def painted? (e : Element) (property : String) : Option String :=
  match (e.get? property).bind PaintValue.parse? with
  | some (.link name _) => some name
  | _ => none

/-- An element inside of a pattern, or inside of one that is used there, that is painted with the
pattern itself. -/
def patternLoop? (all : List Element) (property : String) : Option Element :=
  (all.filter (·.tag == "pattern")).findSome? fun pattern =>
    pattern.all.findSome? fun e =>
      match e.painted? property with
      | none => none
      | some name =>
        if name == pattern.id then some e
        else
          (named? all name).bind fun other =>
            other.all.find? fun e => e.painted? property == some pattern.id

/-- An element inside of an element of a kind, or inside of one that is linked to there, that links to
the element itself. -/
def linkLoop? (all : List Element) (tag property : String) : Option Element :=
  (all.filter (·.tag == tag)).findSome? fun whole =>
    whole.all.findSome? fun e =>
      match e.linked? all property with
      | none => none
      | some other =>
        if other.number == whole.number then some e
        else if other.tag == tag then
          other.all.find? fun e =>
            (e.linked? all property).any (·.number == whole.number)
        else none

def breakLoops (search : List Element → Option Element) (property : String) :
    Nat → Element → Element
  | 0, root => root
  | steps + 1, root =>
    match search root.all with
    | none => root
    | some e => breakLoops search property steps (root.set e.number property "none")

/-- Take away the links that lead back. -/
def withoutLoops (root : Element) : Element :=
  let steps := root.all.length + 1
  let root := breakLoops (patternLoop? · "fill") "fill" steps root
  let root := breakLoops (patternLoop? · "stroke") "stroke" steps root
  let root := breakLoops (linkLoop? · "clipPath" "clip-path") "clip-path" steps root
  let root := breakLoops (linkLoop? · "mask" "mask") "mask" steps root
  breakLoops (linkLoop? · "filter" "filter") "filter" steps root

end Element

namespace Node

def children (n : Node) : List Node :=
  n.element.children.map fun e => ⟨e, n.element :: n.around⟩

def parent? (n : Node) : Option Node :=
  match n.around with
  | [] => none
  | e :: rest => some ⟨e, rest⟩

/-- An element and the elements around it, from the inside to the outside. -/
def outwards (n : Node) : List Node :=
  let rec go : Element → List Element → List Node
    | e, [] => [⟨e, []⟩]
    | e, f :: rest => ⟨e, f :: rest⟩ :: go f rest
  go n.element n.around

def tag (n : Node) : String := n.element.tag

def get? (n : Node) (name : String) : Option String := n.element.get? name

def has (n : Node) (name : String) : Bool := n.element.has name

/-- The innermost element around, itself included, that has a property. -/
def holder? (n : Node) (name : String) : Option Node := n.outwards.find? (·.has name)

/-- The value of a property that may come from around: from any element if it is inherited, else only
from the next one. -/
def find? (n : Node) (name : String) : Option String :=
  if isInherited name then (n.holder? name).bind (·.get? name)
  else n.get? name <|> n.parent?.bind (·.get? name)

/-- All elements with their surroundings, an element in front of what it contains. `depth` levels are
looked at. -/
def allWithin : Nat → Node → List Node
  | 0, _ => []
  | depth + 1, n => n :: n.children.flatMap (allWithin depth)

end Node
end Iconsmith.Svg
