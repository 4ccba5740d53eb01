import Iconsmith.Xml.Document
import Iconsmith.Xml.Scanner

/-!
Reading XML documents. A document type may declare entities; a reference to one is replaced by
reading the value of the entity where the reference stands. References inside of entities are
limited in depth and in number, so that small texts cannot become large documents.
-/

namespace Iconsmith.Xml

def xmlUri : String := "http://www.w3.org/XML/1998/namespace"

def xmlnsUri : String := "http://www.w3.org/2000/xmlns/"

/-- An entity: its name and where its value stands. -/
structure Entity where
  name : String
  value : Span
deriving Repr

/-- Prefixes and the namespaces they stand for; the first that fits counts. -/
abbrev Scope := List (Option String × String)

/-- An element whose end has not been read. -/
structure Frame where
  number : Nat
  name : Name
  /-- The prefix that the element is written with. -/
  written : String
  attributes : List Attribute
  scope : Scope
  /-- What has been read of its content, the last part in front. -/
  content : List Node

namespace Frame

/-- Put a node behind the content. Texts side by side are one. -/
def add (f : Frame) (n : Node) : Frame :=
  { f with content := match n, f.content with
      | .text s, .text before :: rest => .text (before ++ s) :: rest
      | n, content => n :: content }

def toNode (f : Frame) : Node := .element f.number f.name f.attributes f.content.reverse

end Frame

structure State where
  scanner : Scanner
  entities : List Entity
  /-- The elements around the scanner without the innermost one. -/
  outer : List Frame
  /-- The innermost element; the document itself if there is no other. -/
  inner : Frame
  count : Nat
  /-- The depth of entities around the scanner. -/
  depth : Nat
  /-- How many references inside of entities have been followed. -/
  references : Nat
  /-- A tag has been read since the innermost entity began. -/
  tagged : Bool

abbrev Read := StateT State (Except Fault)

namespace Read

def scan {α : Type} (step : Scan α) : Read α := do
  let st ← get
  let (a, s) ← step.run st.scanner
  set { st with scanner := s }
  return a

def pos : Read Nat := return (← get).scanner.pos

def placeOf (i : Nat) : Read Place := return (← get).scanner.placeOf i

/-- Put a node behind what has been read. -/
def add (n : Node) : Read Unit := modify fun st => { st with inner := st.inner.add n }

/-! ### Entities -/

/-- Follow a reference to an entity. Outside of entities there may be any number of references;
inside of them 255 that are at most ten deep. -/
def enter : Read Unit := do
  let st ← get
  let fault := Fault.entityLoop st.scanner.place
  if st.depth > 0 && st.references ≥ 255 then throw fault
  if st.depth ≥ 10 then throw fault
  set { st with
    depth := st.depth + 1
    references := if st.depth > 0 then st.references + 1 else st.references }

def leave : Read Unit := modify fun st =>
  { st with depth := st.depth - 1, references := if st.depth ≤ 1 then 0 else st.references }

def entity (name : String) (start : Nat) : Read Entity := do
  match (← get).entities.find? (·.name == name) with
  | some e => return e
  | none => throw (.unknownEntity name (← placeOf start))

/-- Read a part of the text and come back. -/
def within (part : Span) (body : Read Unit) : Read Unit := do
  let outer := (← get).scanner
  modify fun st => { st with scanner := { st.scanner with pos := part.start, stop := part.stop } }
  body
  modify fun st => { st with scanner := outer }

/-! ### Attributes -/

/-- A blank in the value of an attribute is a space; a carriage return in front of a line feed is
nothing. -/
def valueChar (c : Char) (next : Option Char) : List Char :=
  if c == '\r' && next == some '\n' then []
  else if isBlank c then [' ']
  else [c]

/-- Read the value of an attribute up to the end of the scanner, given how references to entities
are read. -/
def valueWith (expand : Entity → List Char → Read (List Char)) :
    Nat → List Char → Read (List Char)
  | 0, out => return out
  | fuel + 1, out => do
    let st ← get
    match st.scanner.peek? 0 with
    | none => return out
    | some '&' =>
      match ← scan Scan.reference with
      | .char c =>
        if st.depth > 0 then
          if c == '<' then throw (.unescapedLess st.scanner.place)
          valueWith expand fuel ((valueChar c none).reverse ++ out)
        else valueWith expand fuel (c :: out)
      | .entity name =>
        let e ← entity name st.scanner.pos
        enter
        let out ← expand e out
        leave
        valueWith expand fuel out
    | some c =>
      scan (Scan.skip 1)
      valueWith expand fuel ((valueChar c (st.scanner.peek? 1)).reverse ++ out)

/-- Read the value of an attribute within a part of the text. Entities may be `levels` deep. -/
def value : Nat → Span → List Char → Read (List Char)
  | 0, _, out => return out
  | levels + 1, part, out => do
    let outer := (← get).scanner
    modify fun st => { st with scanner := { st.scanner with pos := part.start, stop := part.stop } }
    let out ← valueWith (fun e out => value levels e.value out) (part.stop - part.start) out
    modify fun st => { st with scanner := outer }
    return out

structure Written where
  space : String
  label : String
  value : String
  start : Nat

structure Tag where
  /-- The namespaces that the tag declares, in order. -/
  declared : Scope
  /-- The other attributes, the last one in front. -/
  attributes : List Written

def declare (tag : Tag) (space : String) (uri : String) (place : Place) : Except Fault Tag := do
  if uri == xmlnsUri then throw (.unexpectedXmlnsUri place)
  if space == "xml" then
    if uri != xmlUri then throw (.invalidXmlPrefixUri place)
  else if uri == xmlUri then throw (.unexpectedXmlUri place)
  if tag.declared.any (·.1 == some space) then throw (.duplicatedNamespace space place)
  if uri == xmlUri then return tag
  return { tag with declared := tag.declared ++ [(some space, uri)] }

def declareDefault (tag : Tag) (uri : String) (place : Place) : Except Fault Tag := do
  if uri == xmlUri then throw (.unexpectedXmlUri place)
  if uri == xmlnsUri then throw (.unexpectedXmlnsUri place)
  return { tag with declared := tag.declared ++ [(none, uri)] }

def addAttribute (tag : Tag) : Read Tag := do
  let start ← pos
  let ((space, label), part) ← scan Scan.pair
  let uri := String.ofList (← value 11 part []).reverse
  let place ← placeOf start
  if space == "xmlns" then declare tag label uri place
  else if label == "xmlns" then declareDefault tag uri place
  else return { tag with attributes := ⟨space, label, uri, start⟩ :: tag.attributes }

/-! ### Tags -/

/-- The namespace of a prefix. Names without prefix may have none. -/
def namespaceOf (scope : Scope) (space : String) (start : Nat) : Read (Option String) := do
  let key := if space.isEmpty then none else some space
  match scope.find? (·.1 == key) with
  | some (_, uri) => return some uri
  | none =>
    if space.isEmpty then return none
    else throw (.unknownNamespace space (← placeOf start))

/-- Resolve the prefixes of attributes. -/
def resolve (scope : Scope) : List Written → List Attribute → Read (List Attribute)
  | [], done => return done.reverse
  | w :: rest, done => do
    let space ← if w.space == "xml" then pure (some xmlUri)
      else if w.space.isEmpty then pure none
      else namespaceOf scope w.space w.start
    let name : Name := ⟨space, w.label⟩
    if done.any (·.name == name) then throw (.duplicatedAttribute w.label (← placeOf w.start))
    resolve scope rest (⟨name, w.value⟩ :: done)

/-- Read the rest of a tag behind its name. Gives whether an element is open behind it, and nothing
if the text ends before the tag does. -/
def tagRest : Nat → Tag → Read (Tag × Option Bool)
  | 0, tag => return (tag, none)
  | fuel + 1, tag => do
    let s := (← get).scanner
    if s.atEnd then return (tag, none)
    scan Scan.blanks
    match ← scan Scan.current with
    | '/' =>
      scan (Scan.skip 1)
      scan (Scan.byte '>')
      return (tag, some false)
    | '>' =>
      scan (Scan.skip 1)
      return (tag, some true)
    | c =>
      if !((s.peek? 0).any isBlank) then scan (Scan.refuse "a whitespace" c)
      tagRest fuel (← addAttribute tag)

/-- Read the tag at the beginning of an element. Gives whether content follows. -/
def startTag : Read Bool := do
  let start ← pos
  scan (Scan.skip 1)
  let (space, label) ← scan Scan.qualifiedName
  if space == "xmlns" then throw (.xmlnsElement (← placeOf (start + 1)))
  modify fun st => { st with tagged := true }
  let s := (← get).scanner
  let (tag, opens) ← tagRest (s.stop - s.pos + 1) ⟨[], []⟩
  match opens with
  | none => return false
  | some opens =>
    let scope := tag.declared ++ (← get).inner.scope
    let attributes ← resolve scope tag.attributes.reverse []
    let name : Name := ⟨← namespaceOf scope space (start + 1), label⟩
    let st ← get
    let frame : Frame := ⟨st.count, name, space, attributes, scope, []⟩
    let st := { st with count := st.count + 1 }
    set (if opens then { st with outer := st.inner :: st.outer, inner := frame }
      else { st with inner := st.inner.add frame.toNode })
    return opens

def qualified (space label : String) : String :=
  if space.isEmpty then label else space ++ ":" ++ label

def endTag : Read Unit := do
  let start ← pos
  scan (Scan.skip 2)
  let (space, label) ← scan Scan.qualifiedName
  scan Scan.blanks
  scan (Scan.byte '>')
  let st ← get
  let place := st.scanner.placeOf start
  if !st.tagged then throw (.unexpectedEntityCloseTag place)
  match st.outer with
  | [] => return
  | parent :: outer =>
    if space != st.inner.written || label != st.inner.name.label then
      throw (.unexpectedCloseTag (qualified st.inner.written st.inner.name.label)
        (qualified space label) place)
    set { st with outer, inner := parent.add st.inner.toNode }

/-! ### Content -/

def comment : Read Unit := do
  let start ← pos
  scan (Scan.skip 4)
  let text ← scan (Scan.chars fun s c => !(c == '-' && s.startsWith "-->"))
  scan (Scan.word "-->")
  if (text.splitOn "--").length > 1 || text.endsWith "-" then
    throw (.invalidComment (← placeOf start))
  add .remark

def instruction : Read Unit := do
  if ← scan (Scan.startsWith "<?xml ") then scan (Scan.failHere .unexpectedDeclaration)
  scan (Scan.skip 2)
  let _ ← scan Scan.name
  scan Scan.blanks
  let _ ← scan (Scan.chars fun s c => !(c == '?' && s.startsWith "?>"))
  scan (Scan.word "?>")
  add .remark

/-- Line ends in texts are line feeds. -/
def lines : List Char → List Char
  | '\r' :: '\n' :: rest => '\n' :: lines rest
  | '\r' :: rest => '\n' :: lines rest
  | c :: rest => c :: lines rest
  | [] => []

def addText (letters : List Char) : Read Unit :=
  if letters.isEmpty then return else add (.text (String.ofList letters))

def plainText : Read Unit := do
  scan (Scan.skip 9)
  let text ← scan (Scan.chars fun s c => !(c == ']' && s.startsWith "]]>"))
  scan (Scan.word "]]>")
  addText (lines text.toList)

/-- Read text up to the end of the scanner, given how the content of entities is read. -/
def textWith (expand : Read Unit) : Nat → Read Unit
  | 0 => return
  | fuel + 1 => do
    let s := (← get).scanner
    match s.peek? 0 with
    | none => return
    | some '&' =>
      match ← scan Scan.reference with
      | .char c =>
        addText (if (← get).depth > 0 then lines [c] else [c])
        textWith expand fuel
      | .entity name =>
        let e ← entity name s.pos
        enter
        let tagged := (← get).tagged
        modify fun st => { st with tagged := false }
        within e.value expand
        modify fun st => { st with tagged := tagged }
        leave
        textWith expand fuel
    | some _ =>
      let s' := s.skipWhile fun _ c => c != '&'
      modify fun st => { st with scanner := s' }
      addText (lines (s'.since s.pos).toList)
      textWith expand fuel

/-- Read text up to the next tag. -/
def text (expand : Read Unit) : Read Unit := do
  let start ← pos
  let found ← scan (Scan.chars fun _ c => c != '<')
  let stop ← pos
  if (found.splitOn "]]>").length > 1 then scan (Scan.failHere .invalidCharacterData)
  within ⟨start, stop⟩ (textWith expand (stop - start))

/-- Read content until as many elements as are open have ended, or the text ends; given how the
content of entities is read. -/
def contentWith (expand : Read Unit) : Nat → Nat → Read Unit
  | 0, _ => return
  | _, 0 => return
  | fuel + 1, opened + 1 => do
    let s := (← get).scanner
    match s.peek? 0, s.peek? 1 with
    | none, _ => return
    | some '<', some '!' =>
      if s.startsWith "<!--" then comment
      else if s.startsWith "<![CDATA[" then plainText
      else throw (.unknownToken s.place)
      contentWith expand fuel (opened + 1)
    | some '<', some '?' =>
      instruction
      contentWith expand fuel (opened + 1)
    | some '<', some '/' =>
      endTag
      contentWith expand fuel opened
    | some '<', none => throw (.unknownToken s.place)
    | some '<', some _ =>
      if ← startTag then contentWith expand fuel (opened + 2)
      else contentWith expand fuel (opened + 1)
    | some _, _ =>
      text expand
      contentWith expand fuel (opened + 1)

/-- Read the content of an element, with entities at most `levels` deep. Each step takes a
character or ends. -/
def content : Nat → Read Unit
  | 0 => return
  | levels + 1 => do
    let s := (← get).scanner
    contentWith (content levels) (s.stop - s.pos + 1) 1

/-! ### Documents -/

/-- Read the declaration at the beginning of a document. -/
def declaration : Scan Unit := do
  let blanksOrEnd : Scan Unit := do
    match (← get).peek? 0 with
    | none => return
    | some c =>
      if isBlank c then Scan.blanks
      else if !(← Scan.startsWith "?>") then Scan.refuse "a whitespace" c
  Scan.skip 5
  blanksOrEnd
  if !(← Scan.startsWith "version") then Scan.failHere (.missingText "version")
  let _ ← Scan.pair
  blanksOrEnd
  if ← Scan.startsWith "encoding" then
    let _ ← Scan.pair
    blanksOrEnd
  if ← Scan.startsWith "standalone" then
    let _ ← Scan.pair
  Scan.blanks
  Scan.word "?>"

/-- Comments and instructions outside of elements. -/
def misc : Nat → Read Unit
  | 0 => return
  | fuel + 1 => do
    if (← get).scanner.atEnd then return
    scan Scan.blanks
    if ← scan (Scan.startsWith "<!--") then
      comment
      misc fuel
    else if ← scan (Scan.startsWith "<?") then
      instruction
      misc fuel

def quoted : Scan Unit := do
  let q ← Scan.quote
  Scan.rawUntil q
  Scan.byte q

/-- An identifier of something outside of the document; gives whether there is one. -/
def externalId : Scan Bool := do
  let system ← Scan.startsWith "SYSTEM"
  let external ← Scan.startsWith "PUBLIC"
  if system || external then
    Scan.skip 6
    Scan.someBlanks
    quoted
    if external then
      Scan.someBlanks
      quoted
    return true
  else return false

/-- The value of an entity, if the document itself contains it. -/
def entityValue (general : Bool) : Scan (Option Span) := do
  let c ← Scan.current
  if c == '"' || c == '\'' then
    let q ← Scan.quote
    let start := (← get).pos
    let _ ← Scan.chars fun _ c => c != q
    let stop := (← get).pos
    Scan.byte q
    return some ⟨start, stop⟩
  else if c == 'S' || c == 'P' then
    if !(← externalId) then Scan.failHere .invalidExternalId
    if general then
      Scan.blanks
      if ← Scan.startsWith "NDATA" then
        Scan.skip 5
        Scan.someBlanks
        Scan.skipName
    return none
  else Scan.refuse "a quote, SYSTEM or PUBLIC" c

def entityDeclaration : Read Unit := do
  scan (Scan.skip 8)
  scan Scan.someBlanks
  let general := !(← scan (Scan.startsWith "%"))
  if !general then
    scan (Scan.skip 1)
    scan Scan.someBlanks
  let name ← scan Scan.name
  scan Scan.someBlanks
  match ← scan (entityValue general) with
  | some value => modify fun st => { st with entities := st.entities ++ [⟨name, value⟩] }
  | none => pure ()
  scan Scan.blanks
  scan (Scan.byte '>')

def declarations (start : Nat) : Nat → Read Unit
  | 0 => return
  | fuel + 1 => do
    if (← get).scanner.atEnd then return
    scan Scan.blanks
    let s := (← get).scanner
    if s.startsWith "<!ENTITY" then
      entityDeclaration
      declarations start fuel
    else if s.startsWith "<!--" then
      comment
      declarations start fuel
    else if s.startsWith "<?" then
      instruction
      declarations start fuel
    else if s.startsWith "]" then
      scan (Scan.skip 1)
      scan Scan.blanks
      let c ← scan Scan.current
      if c != '>' then scan (Scan.refuse "'>'" c)
      scan (Scan.skip 1)
    else if s.startsWith "<!ELEMENT" || s.startsWith "<!ATTLIST" || s.startsWith "<!NOTATION" then
      scan (Scan.rawUntil '>')
      if (← get).scanner.atEnd then throw (.unknownToken (← placeOf start))
      scan (Scan.skip 1)
      declarations start fuel
    else throw (.unknownToken s.place)

def documentType : Read Unit := do
  let start ← pos
  scan (Scan.skip 9)
  scan Scan.someBlanks
  scan Scan.skipName
  scan Scan.blanks
  let _ ← scan externalId
  scan Scan.blanks
  let c ← scan Scan.current
  if c != '[' && c != '>' then scan (Scan.refuse "'[' or '>'" c)
  scan Scan.blanks
  scan (Scan.skip 1)
  if c == '[' then
    let s := (← get).scanner
    declarations start (s.stop - s.pos + 1)

def document : Read Unit := do
  if ← scan (Scan.startsWith "\uFEFF") then scan (Scan.skip 1)
  if ← scan (Scan.startsWith "<?xml ") then scan declaration
  let steps := (← get).scanner.stop + 1
  misc steps
  scan Scan.blanks
  if ← scan (Scan.startsWith "<!DOCTYPE") then
    documentType
    misc steps
  scan Scan.blanks
  if ← scan (Scan.startsWith "<") then
    if ← startTag then content 11
  misc steps
  let s := (← get).scanner
  if !s.atEnd then throw (.unknownToken s.place)

end Read

/-- The content of the document with a given text. It has exactly one element. -/
def parse (text : String) : Except Fault (List Node) := do
  let letters := text.toList.toArray
  let root : Frame := ⟨0, ⟨none, ""⟩, "", [], [(some "xml", xmlUri)], []⟩
  let ((), st) ← Read.document.run ⟨⟨letters, 0, letters.size⟩, [], [], root, 1, 0, 0, false⟩
  let top := match st.outer.getLast? with
    | some frame => frame.content
    | none => st.inner.content
  if st.outer.isEmpty && !(top.any fun n => n.element?.isSome) then throw .noRoot
  if !st.outer.isEmpty then throw .unclosedRoot
  return top.reverse

end Iconsmith.Xml
