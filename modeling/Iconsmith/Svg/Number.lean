import Iconsmith.Binary32

/-!
Numbers, lengths and lists of them, as attributes are written. A reader takes the unread text and gives
what it read together with the rest, or nothing if the text does not begin with it.
-/

namespace Iconsmith.Svg

/-- A reader of a part of a text. -/
abbrev Reader (α : Type) := List Char → Option (α × List Char)

/-- White space in the value of an attribute. -/
def isBlank (c : Char) : Bool := c == ' ' || c == '\t' || c == '\n' || c == '\r'

def skipBlanks (s : List Char) : List Char := s.dropWhile isBlank

/-- The rest behind a certain character. -/
def expect (c : Char) : List Char → Option (List Char)
  | d :: rest => if c == d then some rest else none
  | [] => none

def after? (word : String) (s : List Char) : Option (List Char) :=
  let rec go : List Char → List Char → Option (List Char)
    | [], s => some s
    | c :: word, d :: s => if c == d then go word s else none
    | _ :: _, [] => none
  go word.toList s

def skipSeparator (s : List Char) : List Char :=
  match skipBlanks s with
  | ',' :: rest => rest
  | rest => rest

/-- Letters, digits, hyphens and underscores. -/
def isIdentPart (c : Char) : Bool := c.isAlphanum || c == '-' || c == '_'

/-- The word at the beginning, which may be empty. -/
def readWord (s : List Char) : String × List Char :=
  (String.ofList (s.takeWhile isIdentPart), s.dropWhile isIdentPart)

/-- The decimal number `digits * 10 ^ exponent` as the nearest double; numbers beyond the range are
infinite. -/
def decimal (negative : Bool) (digits : List Char) (exponent : Int) : Float :=
  let m := digits.foldl (fun n c => n * 10 + (c.toNat - 48)) 0
  let magnitude : Int := digits.length + exponent
  let x : Float :=
    if m = 0 || magnitude < -400 then 0
    else if magnitude > 400 + digits.length then 1 / 0
    else if exponent < 0 then .ofScientific m true exponent.natAbs
    else .ofScientific m false exponent.natAbs
  if negative then -x else x

/-- The exponent of a number. A letter `e` that begins the unit `em` or `ex` is none. -/
def readExponent : Reader Int
  | e :: rest =>
    if e != 'e' && e != 'E' then some (0, e :: rest)
    else
      match rest with
      | [] => none
      | c :: more =>
        if c == 'm' || c == 'x' then some (0, e :: rest)
        else
          let (negative, body) := if c == '-' then (true, more)
            else if c == '+' then (false, more) else (false, rest)
          let digits := body.takeWhile Char.isDigit
          if digits.isEmpty then none
          else
            let n : Nat := digits.foldl (fun n c => min 100000 (n * 10 + (c.toNat - 48))) 0
            some (if negative then -n else n, body.dropWhile Char.isDigit)
  | [] => some (0, [])

/-- A finite number behind white space. -/
def readNumber : Reader Float := fun s =>
  let s := skipBlanks s
  let (negative, s) := match s with
    | '-' :: rest => (true, rest)
    | '+' :: rest => (false, rest)
    | s => (false, s)
  let whole := s.takeWhile Char.isDigit
  let rest := s.dropWhile Char.isDigit
  let (places, rest) := match rest with
    | '.' :: rest => (rest.takeWhile Char.isDigit, rest.dropWhile Char.isDigit)
    | rest => ([], rest)
  if whole.isEmpty && places.isEmpty then none
  else
    (readExponent rest).bind fun (e, rest) =>
      let x := decimal negative (whole ++ places) (e - places.length)
      if x.isFinite then some (x, rest) else none

/-- A number in a list, with what separates it from the next one. -/
def readListNumber : Reader Float := fun s =>
  (readNumber s).map fun (x, rest) => (x, skipSeparator rest)

def isDone (s : List Char) : Bool := (skipBlanks s).isEmpty

def number? (s : String) : Option Float :=
  (readNumber s.toList).bind fun (x, rest) => if isDone rest then some x else none

inductive LengthUnit where
  | none
  | percent
  | em
  | ex
  | px
  | inch
  | cm
  | mm
  | pt
  | pc
deriving DecidableEq, Repr

structure Length where
  value : Float
  unit : LengthUnit
deriving Repr

namespace Length

def zero : Length := ⟨0, .none⟩

/-- A share in hundredths. -/
def percent (x : Float) : Length := ⟨x, .percent⟩

def units : List (String × LengthUnit) :=
  [("%", .percent), ("em", .em), ("ex", .ex), ("px", .px), ("in", .inch), ("cm", .cm), ("mm", .mm),
    ("pt", .pt), ("pc", .pc)]

def read : Reader Length := fun s =>
  (readNumber s).map fun (x, rest) =>
    match units.findSome? fun (name, unit) => (after? name rest).map fun rest => (unit, rest) with
    | some (unit, rest) => (⟨x, unit⟩, rest)
    | none => (⟨x, .none⟩, rest)

def parse? (s : String) : Option Length :=
  (read s.toList).bind fun (x, rest) => if isDone rest then some x else none

/-- The lengths of a list up to the first thing that is none. -/
def readMany : Nat → List Char → List Length
  | 0, _ => []
  | fuel + 1, s =>
    match read s with
    | none => []
    | some (x, rest) => x :: readMany fuel (skipSeparator rest)

def list (s : String) : List Length := readMany (s.length + 1) s.toList

end Length

/-- A text that is a share: a number or a percentage, kept between zero and one. -/
def share? (s : String) : Option Float32 :=
  (Length.parse? s).bind fun l =>
    let unit (x : Float32) : Float32 := min (max x 0) 1
    match l.unit with
    | .percent => some (unit (Binary32.ofFloat l.value / 100))
    | .none => some (unit (Binary32.ofFloat l.value))
    | _ => none

/-- Pairs of numbers up to the first that is incomplete. -/
def readPairs : Nat → List Char → List (Float × Float)
  | 0, _ => []
  | fuel + 1, s =>
    match readListNumber s with
    | none => []
    | some (x, rest) =>
      match readListNumber rest with
      | none => []
      | some (y, rest) => (x, y) :: readPairs fuel rest

def points (s : String) : List (Float × Float) := readPairs (s.length + 1) s.toList

def trimmed (s : String) : String :=
  String.ofList ((s.toList.dropWhile Char.isWhitespace).reverse.dropWhile Char.isWhitespace).reverse

def reference? (s : String) : Option String :=
  (expect '#' (skipBlanks s.toList)).bind fun s =>
    let name := s.takeWhile (· != ' ')
    if name.isEmpty || !isDone (s.dropWhile (· != ' ')) then none else some (String.ofList name)

/-- The name of an element in the form `url(#name)`, with or without quotation marks. -/
def readLink : Reader String := fun s =>
  (after? "url(" (skipBlanks s)).bind fun s =>
    let s := skipBlanks s
    let (quote, s) := match s with
      | '\'' :: rest => (some '\'', skipBlanks rest)
      | '"' :: rest => (some '"', skipBlanks rest)
      | s => (none, s)
    (expect '#' s).bind fun s =>
      let inName (c : Char) : Bool := c != ' ' && c != ')' && c != '\'' && c != '"'
      let name := String.ofList (s.takeWhile inName)
      let rest := skipBlanks (s.dropWhile inName)
      let rest? := match quote with
        | some q => expect q rest
        | none => some rest
      rest?.bind fun rest => (expect ')' (skipBlanks rest)).map fun rest => (name, rest)

def link? (s : String) : Option String :=
  (readLink s.toList).bind fun (name, rest) => if isDone rest then some name else none

end Iconsmith.Svg
