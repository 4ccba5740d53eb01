import Iconsmith.Xml.Document

/-!
Style sheets: rules that give properties to the elements a selector fits. A rule that cannot be read
is left out, and so is everything behind an error within a block.
-/

namespace Iconsmith.Svg

/-- A property with a value. An important one is not replaced by one that is not. -/
structure Declaration where
  name : String
  value : String
  important : Bool
deriving Repr

inductive AttributeTest where
  | present
  | equals (value : String)
  /-- One of the words of the value, which are separated by spaces. -/
  | word (value : String)
  /-- The value, or the part of it in front of a hyphen. -/
  | beginning (value : String)
deriving Repr

inductive Condition where
  | attribute (name : String) (test : AttributeTest)
  | firstChild
  /-- A state that elements of a still picture are never in. -/
  | never
deriving Repr

/-- Where the element of the step before is found. -/
inductive Relation where
  | descendant
  | child
  | adjacent
deriving DecidableEq, Repr

/-- One step of a selector. The first step has no relation. -/
structure Step where
  relation : Option Relation
  tag : Option String
  conditions : List Condition
deriving Repr

/-- A selector: its steps, the last one in front. -/
abbrev Selector := List Step

/-- Properties for the elements that a selector fits. -/
structure Rule where
  selector : Selector
  declarations : List Declaration
deriving Repr

/-! ### What a selector fits -/

/-- An element of a document with its surroundings: the elements in front of it, the nearest first. -/
structure Spot where
  element : Xml.Element
  before : List Xml.Element

/-- An element and those around it, the innermost first. -/
abbrev Trail := List Spot

namespace AttributeTest

def passes (t : AttributeTest) (value : String) : Bool :=
  match t with
  | present => true
  | equals v => value == v
  | word v => (value.splitOn " ").contains v
  | beginning v => value == v || value.startsWith (v ++ "-")

end AttributeTest

namespace Step

/-- A step fits an element, whatever is around it. -/
def fits (step : Step) (spot : Spot) : Bool :=
  step.tag.all (· == spot.element.name.label) &&
    step.conditions.all fun
      | .attribute name test => (spot.element.attribute? none name).any test.passes
      | .firstChild => spot.before.isEmpty
      | .never => false

end Step

namespace Selector

/-- The trails from each element of a trail outwards. -/
def outwards : Trail → List Trail
  | [] => []
  | spot :: around => (spot :: around) :: outwards around

def fits : Selector → Trail → Bool
  | [], _ => true
  | _, [] => false
  | step :: rest, spot :: around =>
    step.fits spot &&
      match step.relation with
      | none => true
      | some .child => fits rest around
      | some .descendant => (outwards around).any (fits rest)
      | some .adjacent =>
        match spot.before with
        | [] => false
        | e :: before => fits rest (⟨e, before⟩ :: around)

/-- How specific a selector is: the number of identifiers, of other conditions and of tags. -/
def weight (s : Selector) : Nat × Nat × Nat :=
  let conditions := s.flatMap Step.conditions
  let isId : Condition → Bool
    | .attribute "id" _ => true
    | _ => false
  ((conditions.filter isId).length, (conditions.filter (!isId ·)).length,
    (s.filter (·.tag.isSome)).length)

/-- The first selector is at most as specific as the second. -/
def atMost (s t : Selector) : Bool :=
  let (a, b, c) := s.weight
  let (d, e, f) := t.weight
  a < d || (a == d && (b < e || (b == e && c ≤ f)))

end Selector

namespace StyleSheet

/-! ### Reading

Readers take the unread text. One that fails gives the text that is left then.
-/

/-- The outcome of a reader: what was read and what is left, or just what is left. -/
abbrev Outcome (α : Type) := Except (List Char) (α × List Char)

def isBlank (c : Char) : Bool :=
  c == ' ' || c == '\t' || c == '\n' || c == '\r' || c == '\x0c'

def skipBlanks (s : List Char) : List Char := s.dropWhile isBlank

def behindComment : List Char → Except (List Char) (List Char)
  | '*' :: '/' :: rest => .ok rest
  | _ :: rest => behindComment rest
  | [] => .error []

def skipFiller : Nat → List Char → Except (List Char) (List Char)
  | 0, s => .ok s
  | fuel + 1, s =>
    match skipBlanks s with
    | '/' :: '*' :: rest => (behindComment rest).bind (skipFiller fuel)
    | '/' :: rest => .error rest
    | rest => .ok rest

def filler (s : List Char) : Except (List Char) (List Char) := skipFiller (s.length + 1) s

def isNameStart (c : Char) : Bool := c.isAlpha || c == '_' || c.toNat ≥ 128

def isNamePart (c : Char) : Bool := isNameStart c || c.isDigit || c == '-'

/-- A name, possibly behind a hyphen. -/
def readName (s : List Char) : Outcome String :=
  let (hyphen, body) := match s with
    | '-' :: rest => (['-'], rest)
    | s => ([], s)
  match body with
  | c :: _ =>
    if isNameStart c then
      .ok (String.ofList (hyphen ++ body.takeWhile isNamePart), body.dropWhile isNamePart)
    else .error body
  | [] => if hyphen.isEmpty then .error [] else .ok ("-", [])

/-- A text up to a quotation mark that no backslash stands in front of. -/
def readQuoted (quote : Char) : Char → List Char → Outcome (List Char)
  | _, [] => .error []
  | previous, c :: rest =>
    if c == quote && previous != '\\' then .ok ([], rest)
    else (readQuoted quote c rest).map fun (text, rest) => (c :: text, rest)

/-- A text in quotation marks, or a name. -/
def readText (s : List Char) : Outcome String :=
  match s with
  | '"' :: rest => (readQuoted '"' '"' rest).map fun (t, rest) => (String.ofList t, rest)
  | '\'' :: rest => (readQuoted '\'' '\'' rest).map fun (t, rest) => (String.ofList t, rest)
  | s => readName s

def expect (c : Char) : List Char → Except (List Char) (List Char)
  | d :: rest => if c == d then .ok rest else .error (d :: rest)
  | [] => .error []

/-- One term of the value of a property. -/
def readTerm (s : List Char) : Except (List Char) (List Char) :=
  let behindName (s : List Char) : List Char :=
    match readName s with
    | .ok (_, rest) => rest
    | .error _ => s
  let isHex (c : Char) : Bool :=
    c.isDigit || ('a' ≤ c && c ≤ 'f') || ('A' ≤ c && c ≤ 'F')
  match s with
  | [] => .error []
  | '#' :: rest =>
    match readName rest with
    | .ok (_, rest) => .ok rest
    | .error _ => .ok (rest.dropWhile isHex)
  | ',' :: rest => .ok rest
  | c :: rest =>
    if c == '+' || c == '-' || c == '.' || c.isDigit then
      let rest := rest.dropWhile Char.isDigit
      let rest := match rest with
        | '.' :: more => more.dropWhile Char.isDigit
        | rest => rest
      match rest with
      | '%' :: more => .ok more
      | rest => .ok (behindName rest)
    else if c == '"' || c == '\'' then (readText s).map Prod.snd
    else
      (readName s).bind fun (_, rest) =>
        match rest with
        | '(' :: _ => expect ')' (rest.dropWhile (· != ')'))
        | rest => .ok rest

/-- The terms of a value: the text behind the last of them, and what is left. -/
def readTerms : Nat → List Char → Outcome (List Char)
  | 0, s => .ok (s, s)
  | fuel + 1, s =>
    match readTerm s with
    | .error rest => .ok (s, rest)
    | .ok behind =>
      (filler behind).bind fun next =>
        (readTerms fuel next).map fun (stop, rest) =>
          (if stop.length == next.length then behind else stop, rest)

def skipSemicolons : Nat → List Char → Except (List Char) (List Char)
  | 0, s => .ok s
  | fuel + 1, s =>
    match s with
    | ';' :: rest => (filler rest).bind (skipSemicolons fuel)
    | s => .ok s

def readDeclaration (s : List Char) : Except (List Char) (Declaration × List Char) := do
  let s ← filler s
  let s := match s with
    | '*' :: rest => rest
    | s => s
  let (name, s) ← readName s
  let s ← filler s
  let s ← expect ':' s
  let start ← filler s
  let (stop, s) ← readTerms (start.length + 1) start
  let letters := start.take (start.length - stop.length)
  let value := String.ofList ((skipBlanks letters).reverse.dropWhile isBlank).reverse
  let s ← filler s
  let (important, s) ← match s with
    | '!' :: rest => do
      let rest ← filler rest
      let word := "important".toList
      pure (if word.isPrefixOf rest then (true, rest.drop word.length) else (false, rest))
    | s => pure (false, s)
  let s ← filler s
  let s ← skipSemicolons (s.length + 1) s
  if value.isEmpty then throw s
  return (⟨name, value, important⟩, s)

def behindBlock : Nat → List Char → List Char
  | _, [] => []
  | depth, '\x7b' :: rest => behindBlock (depth + 1) rest
  | 0, '\x7d' :: rest => rest
  | depth + 1, '\x7d' :: rest => behindBlock depth rest
  | depth, _ :: rest => behindBlock depth rest

/-- The declarations of a block up to its end or the first error. -/
def readBlock : Nat → List Char → List Declaration × List Char
  | 0, s => ([], s)
  | _, [] => ([], [])
  | _, '\x7d' :: rest => ([], '\x7d' :: rest)
  | fuel + 1, s =>
    match readDeclaration s with
    | .ok (d, rest) =>
      let (ds, rest) := readBlock fuel rest
      (d :: ds, rest)
    | .error rest => ([], behindBlock 0 rest)

def declarations (s : String) : List Declaration :=
  let rec go : Nat → List Char → List Declaration
    | 0, _ => []
    | fuel + 1, s =>
      match readDeclaration s with
      | .ok (d, rest) => d :: go fuel rest
      | .error _ => []
  go (s.length + 1) s.toList

/-! ### Selectors -/

def pseudoClass? : String → Option Condition
  | "first-child" => some .firstChild
  | "link" => some .never
  | "visited" => some .never
  | "hover" => some .never
  | "active" => some .never
  | "focus" => some .never
  | _ => none

/-- A condition on an attribute, behind its opening bracket. -/
def readAttributeTest (s : List Char) : Except (List Char) (Condition × List Char) := do
  let (name, s) ← readName s
  let (test, s) ← match s with
    | ']' :: _ => pure (.present, s)
    | '=' :: rest => (readText rest).map fun (v, rest) => (.equals v, rest)
    | '~' :: '=' :: rest => (readText rest).map fun (v, rest) => (.word v, rest)
    | '|' :: '=' :: rest => (readText rest).map fun (v, rest) => (.beginning v, rest)
    | s => throw s
  let s ← expect ']' s
  return (.attribute name test, s)

/-- Add a condition to the last step, or begin a step if a relation stands in front of it. -/
def addCondition (steps : Selector) (relation : Option Relation) (c : Condition) : Selector :=
  match relation, steps with
  | none, step :: rest => { step with conditions := step.conditions ++ [c] } :: rest
  | relation, steps => ⟨relation, none, [c]⟩ :: steps

/-- Read a selector, given its steps so far, the relation to the next step, and whether a step has to
follow. Gives nothing in place of a selector that is wrong, and what is left. -/
def readSteps : Nat → Selector → Option Relation → Bool → List Char → Option Selector × List Char
  | 0, _, _, _, s => (none, s)
  | fuel + 1, steps, relation, pending, s =>
    let finish : Option Selector × List Char := (if pending then none else some steps, s)
    let withCondition : Outcome Condition → Option Selector × List Char
      | .ok (c, rest) => readSteps fuel (addCondition steps relation c) none false rest
      | .error rest => (none, rest)
    match s with
    | [] => finish
    | ',' :: _ => finish
    | '\x7b' :: _ => finish
    | '*' :: rest =>
      if pending then readSteps fuel (⟨relation, none, []⟩ :: steps) none false rest else (none, s)
    | '#' :: rest =>
      withCondition ((readName rest).map fun (n, rest) => (.attribute "id" (.equals n), rest))
    | '.' :: rest =>
      withCondition ((readName rest).map fun (n, rest) => (.attribute "class" (.word n), rest))
    | '[' :: rest => withCondition (readAttributeTest rest)
    | ':' :: rest =>
      withCondition <| (readName rest).bind fun (n, rest) =>
        if n == "lang" then
          (expect '(' rest).bind fun rest =>
            (expect ')' (rest.dropWhile (· != ')'))).map fun rest => (.never, rest)
        else
          match pseudoClass? n with
          | some c => .ok (c, rest)
          | none => .error rest
    | '>' :: rest =>
      if pending then (none, s) else readSteps fuel steps (some .child) true (skipBlanks rest)
    | '+' :: rest =>
      if pending then (none, s) else readSteps fuel steps (some .adjacent) true (skipBlanks rest)
    | '/' :: '*' :: rest =>
      match behindComment rest with
      | .ok rest => readSteps fuel steps relation pending rest
      | .error rest => (none, rest)
    | '/' :: _ => finish
    | c :: _ =>
      if isBlank c then
        if pending then readSteps fuel steps relation pending (skipBlanks s)
        else
          match filler s with
          | .error rest => (none, rest)
          | .ok rest =>
            match rest with
            | [] => readSteps fuel steps relation pending rest
            | d :: _ =>
              if d == '>' || d == '+' || d == ',' || d == '\x7b' then
                readSteps fuel steps relation pending rest
              else readSteps fuel steps (some .descendant) true rest
      else
        match readName s with
        | .error rest => (none, rest)
        | .ok (n, rest) =>
          if pending then readSteps fuel (⟨relation, some n, []⟩ :: steps) none false rest
          else (none, rest)

def readSelector (s : List Char) : Option Selector × List Char :=
  match readSteps (2 * s.length + 2) [] none true s with
  | (some [], rest) => (none, rest)
  | r => r

/-- Read the selectors of a rule, which are separated by commas. What is left begins with the block of
the rule. -/
def readSelectors : Nat → List Char → List Selector × List Char
  | 0, s => ([], s)
  | fuel + 1, s =>
    let (selector, rest) := readSelector s
    match skipBlanks rest with
    | ',' :: rest =>
      let (selectors, rest) := readSelectors fuel rest
      (selector.toList ++ selectors, rest)
    | rest => (selector.toList, rest.dropWhile (· != '\x7b'))

def skipChar (c : Char) : List Char → List Char
  | d :: rest => if c == d then rest else d :: rest
  | [] => []

/-- Read the rules of a style sheet. Rules that begin with `@` are left out. -/
def readRules : Nat → List Char → List Rule
  | 0, _ => []
  | fuel + 1, s =>
    match filler s with
    | .error _ => []
    | .ok [] => []
    | .ok ('@' :: rest) =>
      match rest.dropWhile fun c => c != ';' && c != '\x7b' with
      | '\x7b' :: rest => readRules fuel (behindBlock 0 rest)
      | _ :: rest => readRules fuel rest
      | [] => []
    | .ok s =>
      let (selectors, rest) := readSelectors (s.length + 1) s
      let rest := skipChar '\x7b' rest
      let (declarations, rest) := readBlock (rest.length + 1) rest
      let rest := skipChar '\x7d' rest
      selectors.map (⟨·, declarations⟩) ++ (if rest.length < s.length then readRules fuel rest else [])

/-- The rules of some style sheets, the most specific last; rules without declarations are left
out. -/
def rules (sheets : List String) : List Rule :=
  let all := sheets.flatMap fun s => readRules (s.length + 1) s.toList
  (all.filter fun r => !r.declarations.isEmpty).mergeSort fun r s => r.selector.atMost s.selector

end StyleSheet
end Iconsmith.Svg
