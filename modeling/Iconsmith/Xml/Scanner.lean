/-!
Scanning an XML text, by the classes of characters that XML distinguishes. A scanner walks over a
part of the text; a step that does not find what it needs is a fault, which says what is wrong with the
text, and where.
-/

namespace Iconsmith.Xml

/-- A place in a text: its line and its column, both counted from one in characters. -/
structure Place where
  line : Nat
  column : Nat
deriving DecidableEq, Repr

namespace Place

def message (p : Place) : String := toString p.line ++ ":" ++ toString p.column

/-- The place of the character at an index. Only a line feed ends a line. -/
def ofIndex (text : Array Char) (i : Nat) : Place :=
  let before := (text.take i).toList
  ⟨before.count '\n' + 1, (before.reverse.takeWhile (· != '\n')).length + 1⟩

end Place

inductive Fault where
  | invalidXmlPrefixUri (place : Place)
  | unexpectedXmlUri (place : Place)
  | unexpectedXmlnsUri (place : Place)
  | xmlnsElement (place : Place)
  | duplicatedNamespace (name : String) (place : Place)
  | unknownNamespace (name : String) (place : Place)
  | unexpectedCloseTag (expected found : String) (place : Place)
  | unexpectedEntityCloseTag (place : Place)
  | unknownEntity (name : String) (place : Place)
  | malformedReference (place : Place)
  | entityLoop (place : Place)
  | unescapedLess (place : Place)
  | duplicatedAttribute (name : String) (place : Place)
  | noRoot
  | unclosedRoot
  | unexpectedDeclaration (place : Place)
  | invalidName (place : Place)
  | invalidCharacter (c : Char) (place : Place)
  /-- What was expected, and the first byte of what was found. -/
  | unexpectedByte (expected : String) (found : Char) (place : Place)
  | missingText (expected : String) (place : Place)
  | invalidExternalId (place : Place)
  | invalidComment (place : Place)
  | invalidCharacterData (place : Place)
  | unknownToken (place : Place)
  | unexpectedEnd
deriving DecidableEq, Repr

/-- The escape that stands for a character which XML does not allow. -/
def escaped (c : Char) : String :=
  if c.toNat = 0 then "'\\0'"
  else "'\\u\x7b" ++ String.ofList (Nat.toDigits 16 c.toNat) ++ "\x7d'"

namespace Fault

def message : Fault → String
  | invalidXmlPrefixUri p => "'xml' namespace prefix mapped to wrong URI at " ++ p.message
  | unexpectedXmlUri p => "the 'xml' namespace URI is used for not 'xml' prefix at " ++ p.message
  | unexpectedXmlnsUri p =>
    "the 'xmlns' URI is used at " ++ p.message ++ ", but it must not be declared"
  | xmlnsElement p => "the 'xmlns' prefix is used at " ++ p.message ++ ", but it must not be"
  | duplicatedNamespace n p => "namespace '" ++ n ++ "' at " ++ p.message ++ " is already defined"
  | unknownNamespace n p => "an unknown namespace prefix '" ++ n ++ "' at " ++ p.message
  | unexpectedCloseTag e f p =>
    "expected '" ++ e ++ "' tag, not '" ++ f ++ "' at " ++ p.message
  | unexpectedEntityCloseTag p => "unexpected close tag at " ++ p.message
  | unknownEntity n p => "unknown entity reference '" ++ n ++ "' at " ++ p.message
  | malformedReference p => "malformed entity reference at " ++ p.message
  | entityLoop p => "a possible entity reference loop is detected at " ++ p.message
  | unescapedLess p => "unescaped '<' found at " ++ p.message
  | duplicatedAttribute n p => "attribute '" ++ n ++ "' at " ++ p.message ++ " is already defined"
  | noRoot => "the document does not have a root node"
  | unclosedRoot => "the root node was opened but never closed"
  | unexpectedDeclaration p => "unexpected XML declaration at " ++ p.message
  | invalidName p => "invalid name token at " ++ p.message
  | invalidCharacter c p => "a non-XML character " ++ escaped c ++ " found at " ++ p.message
  | unexpectedByte e f p =>
    "expected " ++ e ++ " not '" ++ f.toString ++ "' at " ++ p.message
  | missingText e p => "expected '" ++ e ++ "' at " ++ p.message
  | invalidExternalId p => "invalid ExternalID at " ++ p.message
  | invalidComment p => "comment at " ++ p.message ++ " contains '--'"
  | invalidCharacterData p => "']]>' at " ++ p.message ++ " is not allowed inside a character data"
  | unknownToken p => "unknown token at " ++ p.message
  | unexpectedEnd => "unexpected end of stream"

end Fault

def isBlank (c : Char) : Bool := c == ' ' || c == '\t' || c == '\n' || c == '\r'

def isAllowed (c : Char) : Bool :=
  if c.toNat < 0x20 then isBlank c else c.toNat != 0xFFFE && c.toNat != 0xFFFF

def nameStartRanges : List (Nat × Nat) :=
  [(0xC0, 0xD6), (0xD8, 0xF6), (0xF8, 0x2FF), (0x370, 0x37D), (0x37F, 0x1FFF), (0x200C, 0x200D),
    (0x2070, 0x218F), (0x2C00, 0x2FEF), (0x3001, 0xD7FF), (0xF900, 0xFDCF), (0xFDF0, 0xFFFD),
    (0x10000, 0xEFFFF)]

/-- The ranges beyond ASCII that may stand in a name but not begin it. -/
def nameMarkRanges : List (Nat × Nat) := [(0xB7, 0xB7), (0x300, 0x36F), (0x203F, 0x2040)]

def isWithinRanges (ranges : List (Nat × Nat)) (c : Char) : Bool :=
  ranges.any fun (low, high) => low ≤ c.toNat && c.toNat ≤ high

def isNameStart (c : Char) : Bool :=
  if c.toNat ≤ 128 then c.isAlpha || c == ':' || c == '_' else isWithinRanges nameStartRanges c

def isNamePart (c : Char) : Bool :=
  if c.toNat ≤ 128 then c.isAlphanum || c == ':' || c == '_' || c == '-' || c == '.'
  else isWithinRanges nameStartRanges c || isWithinRanges nameMarkRanges c

/-- A part of a text: the index of its first character and the one behind its last. -/
structure Span where
  start : Nat
  stop : Nat
deriving DecidableEq, Inhabited, Repr

/-- A position in a part of a text. -/
structure Scanner where
  text : Array Char
  pos : Nat
  stop : Nat

/-- A step over the text. -/
abbrev Scan := StateT Scanner (Except Fault)

/-- What a reference stands for: a character, or the value of an entity. -/
inductive Reference where
  | char (c : Char)
  | entity (name : String)

namespace Scanner

def atEnd (s : Scanner) : Bool := s.pos ≥ s.stop

def peek? (s : Scanner) (k : Nat) : Option Char :=
  if s.pos + k < s.stop then s.text[s.pos + k]? else none

def startsWith (s : Scanner) (word : String) : Bool :=
  let rec go : List Char → Nat → Bool
    | [], _ => true
    | c :: rest, k => s.peek? k == some c && go rest (k + 1)
  go word.toList 0

/-- Go forward, at most to the end. -/
def skip (s : Scanner) (k : Nat) : Scanner := { s with pos := min (s.pos + k) s.stop }

def place (s : Scanner) : Place := .ofIndex s.text s.pos

def placeOf (s : Scanner) (i : Nat) : Place := .ofIndex s.text i

def since (s : Scanner) (start : Nat) : String := String.ofList (s.text.extract start s.pos).toList

/-- The index of the first character from `i` on that the test refuses; `fuel` characters are
looked at. -/
def find (s : Scanner) (ok : Nat → Char → Bool) : Nat → Nat → Nat
  | 0, i => i
  | fuel + 1, i =>
    match s.text[i]? with
    | none => i
    | some c => if ok i c then find s ok fuel (i + 1) else i

def skipWhile (s : Scanner) (ok : Nat → Char → Bool) : Scanner :=
  { s with pos := s.find ok (s.stop - s.pos) s.pos }

def skipBlanks (s : Scanner) : Scanner := s.skipWhile fun _ c => isBlank c

/-- The first byte of a character as a character of its own. -/
def leadByte (c : Char) : Char := Char.ofNat (c.toString.toUTF8.get! 0).toNat

end Scanner

namespace Scan

/-- Give up at the place where the scanner stands. -/
def failHere {α : Type} (fault : Place → Fault) : Scan α := do
  let s ← get
  throw (fault s.place)

def blanks : Scan Unit := modify Scanner.skipBlanks

def skip (k : Nat) : Scan Unit := modify fun s => s.skip k

def startsWith (word : String) : Scan Bool := return (← get).startsWith word

def current : Scan Char := do
  match (← get).peek? 0 with
  | none => throw .unexpectedEnd
  | some c => return c

def refuse {α : Type} (expected : String) (c : Char) : Scan α :=
  failHere (.unexpectedByte expected (Scanner.leadByte c))

def byte (expected : Char) : Scan Unit := do
  let c ← current
  if c != expected then refuse ("'" ++ expected.toString ++ "'") c
  skip 1

def word (expected : String) : Scan Unit := do
  if !(← startsWith expected) then failHere (.missingText expected)
  skip expected.length

def someBlanks : Scan Unit := do
  let c ← current
  if !isBlank c then refuse "a whitespace" c
  blanks

def quote : Scan Char := do
  let c ← current
  if c != '"' && c != '\'' then refuse "a quote" c
  skip 1
  return c

/-- The characters that pass a test on the rest of the text and themselves; each of them must be
allowed in a document, and so must be the one behind them. -/
def chars (ok : Scanner → Char → Bool) : Scan String := do
  let s ← get
  let s' := s.skipWhile fun i c => isAllowed c && ok { s with pos := i } c
  match s'.peek? 0 with
  | some c => if !isAllowed c then throw (.invalidCharacter c s'.place)
  | none => pure ()
  set s'
  return s'.since s.pos

def rawUntil (stop : Char) : Scan Unit := modify fun s => s.skipWhile fun _ c => c != stop

/-- Skip a name. At the end of the text there is nothing to skip. -/
def skipName : Scan Unit := do
  match (← get).peek? 0 with
  | none => return
  | some c =>
    if !isNameStart c then failHere .invalidName
    skip 1
    modify fun s => s.skipWhile fun _ c => isNamePart c

def name : Scan String := do
  let start := (← get).pos
  skipName
  let s ← get
  if s.pos = start then throw (.invalidName (s.placeOf start))
  return s.since start

/-- A name that may have a prefix: the prefix, empty if there is none, and the rest. -/
def qualifiedName : Scan (String × String) := do
  let before ← get
  let s := before.skipWhile fun _ c => isNamePart c
  let start := before.pos
  let fault := Fault.invalidName (s.placeOf start)
  let letters := (s.since start).toList
  let (first, rest) := letters.span (· != ':')
  let (space, label) := match rest with
    | [] => ([], letters)
    | _ :: label => (first, label)
  if label.contains ':' then throw fault
  match space with
  | c :: _ => if !isNameStart c then throw fault
  | [] => pure ()
  match label with
  | c :: _ => if !isNameStart c then throw fault
  | [] => throw fault
  set s
  return (String.ofList space, String.ofList label)

def equals : Scan Unit := do
  blanks
  byte '='
  blanks

def pair : Scan ((String × String) × Span) := do
  let name ← qualifiedName
  equals
  let q ← quote
  let start := (← get).pos
  let _ ← chars fun _ c => c != q && c != '<'
  let stop := (← get).pos
  byte q
  return (name, ⟨start, stop⟩)

/-- The character with a number that is written in a base; there is none if the number has no
digits, is too large for 32 bits or stands for a character that no document may have. -/
def numbered? (base : Nat) (digits : List Char) : Option Char :=
  let value (c : Char) : Nat :=
    if c.isDigit then c.toNat - 48 else if c.toNat < 97 then c.toNat - 55 else c.toNat - 87
  let n := digits.foldl (fun n c => n * base + value c) 0
  if digits.isEmpty || n ≥ 1 <<< 32 then none
  else
    let c := if n.isValidChar then Char.ofNat n else '\uFFFD'
    if isAllowed c then some c else none

def predefined : String → Reference
  | "quot" => .char '"'
  | "amp" => .char '&'
  | "apos" => .char '\''
  | "lt" => .char '<'
  | "gt" => .char '>'
  | name => .entity name

/-- A reference. Whatever is wrong with it, it is malformed where it begins. -/
def reference : Scan Reference := do
  let s ← get
  let inner : Scan (Option Reference) := do
    byte '&'
    let r ← if (← startsWith "#") then do
        skip 1
        let hexadecimal ← startsWith "x"
        if hexadecimal then skip 1
        let start := (← get).pos
        modify fun s => s.skipWhile fun _ c =>
          c.isDigit || (hexadecimal && (('a' ≤ c && c ≤ 'f') || ('A' ≤ c && c ≤ 'F')))
        let digits := ((← get).since start).toList
        pure ((numbered? (if hexadecimal then 16 else 10) digits).map Reference.char)
      else
        pure (some (predefined (← name)))
    byte ';'
    return r
  match inner.run s with
  | .ok (some r, s') =>
    set s'
    return r
  | _ => throw (.malformedReference s.place)

end Scan
end Iconsmith.Xml
