/-!
XML documents as trees. Prefixes are resolved: a name carries the address of its namespace.
-/

namespace Iconsmith.Xml

/-- A name in a namespace, or in none. -/
structure Name where
  space : Option String
  label : String
deriving DecidableEq, Inhabited, Repr

structure Attribute where
  name : Name
  value : String
deriving DecidableEq, Inhabited, Repr

inductive Node where
  /-- An element. No two elements of a document have the same number. -/
  | element (number : Nat) (name : Name) (attributes : List Attribute) (children : List Node)
  | text (content : String)
  /-- A comment or a processing instruction. -/
  | remark
deriving Inhabited, Repr

structure Element where
  number : Nat
  name : Name
  attributes : List Attribute
  children : List Node
deriving Inhabited, Repr

namespace Node

def element? : Node → Option Element
  | element number name attributes children => some ⟨number, name, attributes, children⟩
  | _ => none

mutual

/-- All elements of a node, an element in front of what it contains. -/
def elements : Node → List Element
  | element number name attributes children =>
    ⟨number, name, attributes, children⟩ :: elementsOf children
  | text _ => []
  | remark => []

def elementsOf : List Node → List Element
  | [] => []
  | n :: rest => n.elements ++ elementsOf rest

end

end Node

namespace Element

def attribute? (e : Element) (space : Option String) (label : String) : Option String :=
  (e.attributes.find? (·.name == ⟨space, label⟩)).map Attribute.value

def childElements (e : Element) : List Element := e.children.filterMap Node.element?

def descendants (e : Element) : List Element := Node.elementsOf e.children

def leadingText? (e : Element) : Option String :=
  match e.children with
  | .text s :: _ => some s
  | _ => none

end Element
end Iconsmith.Xml
