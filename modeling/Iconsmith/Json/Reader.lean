import Iconsmith.Decimal.Shortest
import Iconsmith.Json.Fault
import Iconsmith.Text.Quoted

/-!
Reading the parts of a JSON text from its start. Each reader takes the unread text and gives what
it read together with the rest of the text, or a fault. Values that nobody asked for are skipped
without being built; skipping follows the grammar but does not look at the size of numbers or at
the pairing of escaped surrogates.
-/

namespace Iconsmith.Json

/-- The outcome of a reader: a value and the unread rest. -/
abbrev Reading (α : Type) := Except Fault (α × List Char)

def isBlank (c : Char) : Bool := c = ' ' || c = '\n' || c = '\t' || c = '\r'

def skipBlanks (s : List Char) : List Char := s.dropWhile isBlank

/-- Read a word letter by letter. A letter that differs has been consumed when it is refused. -/
def readWord : List Char → List Char → Except Fault (List Char)
  | [], s => .ok s
  | _ :: _, [] => .error (.here .endInValue [])
  | w :: ws, c :: s => if c = w then readWord ws s else .error ⟨.expectedWord, c :: s, 1⟩

/-! ### Strings -/

def hexDigit? (c : Char) : Option Nat :=
  if '0' ≤ c ∧ c ≤ '9' then some (c.toNat - 48)
  else if 'a' ≤ c ∧ c ≤ 'f' then some (c.toNat - 87)
  else if 'A' ≤ c ∧ c ≤ 'F' then some (c.toNat - 55)
  else none

/-- The four digits of a `\u` escape. The escape takes four bytes whatever they are; a text that
ends before them is an unfinished string. -/
def readHex (s : List Char) : Reading Nat :=
  match s with
  | a :: b :: c :: d :: rest =>
    match hexDigit? a, hexDigit? b, hexDigit? c, hexDigit? d with
    | some a, some b, some c, some d => .ok (((a * 16 + b) * 16 + c) * 16 + d, rest)
    | _, _, _, _ => .error ⟨.invalidEscape, s, 4⟩
  | _ =>
    if byteLength s ≥ 4 then .error ⟨.invalidEscape, s, 4⟩ else .error (.here .endInString [])

/-- The second half of an escaped surrogate pair, and the character of both. -/
def readLowSurrogate (high : Nat) (s : List Char) : Reading Char :=
  match s with
  | [] => .error (.here .endInString [])
  | '\\' :: [] => .error (.here .endInString [])
  | '\\' :: 'u' :: rest =>
    match readHex rest with
    | .error f => .error f
    | .ok (low, rest) =>
      if low < 0xDC00 ∨ 0xDFFF < low then .error (.here .loneSurrogate rest)
      else .ok (Char.ofNat ((high - 0xD800) * 1024 + (low - 0xDC00) + 0x10000), rest)
  | '\\' :: rest => .error ⟨.unfinishedSurrogatePair, rest, 1⟩
  | s => .error ⟨.unfinishedSurrogatePair, s, 1⟩

def simpleEscape? : Char → Option Char
  | '"' => some '"'
  | '\\' => some '\\'
  | '/' => some '/'
  | 'b' => some '\x08'
  | 'f' => some '\x0c'
  | 'n' => some '\n'
  | 'r' => some '\r'
  | 't' => some '\t'
  | _ => none

/-- What follows a backslash. -/
def readEscape (s : List Char) : Reading Char :=
  match s with
  | [] => .error (.here .endInString [])
  | 'u' :: rest =>
    match readHex rest with
    | .error f => .error f
    | .ok (n, rest) =>
      if 0xDC00 ≤ n ∧ n ≤ 0xDFFF then .error (.here .loneSurrogate rest)
      else if 0xD800 ≤ n ∧ n ≤ 0xDBFF then readLowSurrogate n rest
      else .ok (Char.ofNat n, rest)
  | c :: rest =>
    match simpleEscape? c with
    | some e => .ok (e, rest)
    | none => .error ⟨.invalidEscape, s, 1⟩

/-- A reader that succeeds has consumed at least one character. -/
theorem readHex_length {s rest : List Char} {n : Nat} (h : readHex s = .ok (n, rest)) :
    rest.length < s.length := by
  unfold readHex at h
  split at h
  · split at h
    · simp only [Except.ok.injEq, Prod.mk.injEq] at h
      simp only [← h.2, List.length_cons]
      omega
    · simp at h
  · split at h <;> simp at h

theorem readLowSurrogate_length {high : Nat} {s rest : List Char} {c : Char}
    (h : readLowSurrogate high s = .ok (c, rest)) : rest.length < s.length := by
  unfold readLowSurrogate at h
  split at h <;> try (simp at h)
  split at h
  · simp at h
  · rename_i hx
    split at h <;> simp at h
    have := readHex_length hx
    obtain ⟨_, rfl⟩ := h
    simp; omega

theorem readEscape_length {s rest : List Char} {c : Char} (h : readEscape s = .ok (c, rest)) :
    rest.length < s.length := by
  unfold readEscape at h
  split at h
  · simp at h
  · split at h
    · simp at h
    · rename_i hx
      have := readHex_length hx
      split at h
      · simp at h
      · split at h
        · have := readLowSurrogate_length h
          simp; omega
        · simp at h
          obtain ⟨_, rfl⟩ := h
          simp; omega
  · split at h <;> simp at h
    obtain ⟨_, rfl⟩ := h
    simp

/-- The rest of a string, after its opening quote; `read` holds the characters so far, last one
first. -/
def readStringFrom (read : List Char) (s : List Char) : Reading (List Char) :=
  match s with
  | [] => .error (.here .endInString [])
  | '"' :: rest => .ok (read.reverse, rest)
  | '\\' :: rest =>
    match _h : readEscape rest with
    | .error f => .error f
    | .ok (c, rest') => readStringFrom (c :: read) rest'
  | c :: rest =>
    if c.toNat < 32 then .error ⟨.controlCharacter, s, 1⟩ else readStringFrom (c :: read) rest
termination_by s.length
decreasing_by
  · have := readEscape_length _h
    simp only [List.length_cons]
    omega
  · simp only [List.length_cons, Nat.lt_add_one]

/-- A string after its opening quote. -/
def readString (s : List Char) : Reading (List Char) := readStringFrom [] s

/-! ### Numbers -/

/-- A JSON number as it is read: integers that fit in 64 bits stay exact, all else is a
floating-point number. A negative zero is a floating-point number. -/
inductive Number where
  | natural (n : Nat)
  | negative (n : Nat)
  | real (x : Float)

def Number.describe : Number → String
  | .natural n => "integer `" ++ Decimal.text n ++ "`"
  | .negative n => "integer `-" ++ Decimal.text n ++ "`"
  | .real x => "floating point `" ++ Decimal.floatText x.toBits.toNat ++ "`"

/-- The greatest natural number that stays exact. -/
def maxExact : Nat := (1 <<< 64) - 1

def readDigits (s : List Char) : List Char × List Char := s.span fun c => '0' ≤ c && c ≤ '9'

/-- Take digits into a significand for as long as it stays exact. Gives the significand, the
number of digits taken, the number of digits left out, and the rest. -/
def takeExact (n taken : Nat) : List Char → Nat × Nat × Nat × List Char
  | [] => (n, taken, 0, [])
  | c :: s =>
    match Decimal.digit? c with
    | none => (n, taken, 0, c :: s)
    | some d =>
      if n * 10 + d ≤ maxExact then takeExact (n * 10 + d) (taken + 1) s
      else
        let (more, rest) := readDigits (c :: s)
        (n, taken, more.length, rest)

/-- The product of a significand and a power of ten in floating point, by at most one operation
per 308 decimal places; `none` when it is too large. -/
def scaleByTen (x : Float) (exponent : Int) : Nat → Option Float
  | 0 => some 0
  | tries + 1 =>
    if exponent.natAbs ≤ 308 then
      let power := Float.ofScientific 1 false exponent.natAbs
      if 0 ≤ exponent then
        let y := x * power
        if y.isInf then none else some y
      else some (x / power)
    else if x == 0 then some x
    else if 0 ≤ exponent then none
    else scaleByTen (x / Float.ofScientific 1 false 308) (exponent + 308) tries

def realOf (negative : Bool) (n : Nat) (exponent : Int) (rest : List Char) : Reading Number :=
  match scaleByTen (Float.ofNat n) exponent 4 with
  | none => .error (.here .numberOutOfRange rest)
  | some x => .ok (.real (if negative then -x else x), rest)

def skipSign : List Char → List Char
  | '+' :: r => r
  | '-' :: r => r
  | r => r

/-- The exponent of a number, after its letter. Exponents beyond 32 bits count as without bound. -/
def readExponent (negative : Bool) (n : Nat) (exponent : Int) (s : List Char) : Reading Number :=
  let positive := s.head? != some '-'
  match skipSign s with
  | [] => .error (.here .endInValue [])
  | c :: t =>
    if (Decimal.digit? c).isNone then .error ⟨.invalidNumber, c :: t, 1⟩
    else
      let (ds, rest) := readDigits (c :: t)
      match firstBeyond 0 ds with
      | some unread =>
        if n ≠ 0 ∧ positive then .error (.here .numberOutOfRange (unread ++ rest))
        else .ok (.real (if negative then -0.0 else 0.0), rest)
      | none =>
        let x := (Decimal.digitsFrom? 0 ds).getD 0
        let total := if positive then exponent + x else exponent - x
        realOf negative n (max (-2147483648) (min 2147483647 total)) rest
where
  /-- The digits after the one at which the number passes 31 bits. -/
  firstBeyond (n : Nat) : List Char → Option (List Char)
    | [] => none
    | c :: ds =>
      let n := n * 10 + (Decimal.digit? c).getD 0
      if n > 2147483647 then some ds else firstBeyond n ds

def readExponentOr (negative : Bool) (n : Nat) (exponent : Int) : List Char → Reading Number
  | 'e' :: s => readExponent negative n exponent s
  | 'E' :: s => readExponent negative n exponent s
  | s => realOf negative n exponent s

/-- The places after the point. -/
def readFraction (negative : Bool) (n : Nat) (exponent : Int) (s : List Char) : Reading Number :=
  let (n, taken, left, rest) := takeExact n 0 s
  if taken = 0 ∧ left = 0 then .error (.next (if s.isEmpty then .endInValue else .invalidNumber) s)
  else readExponentOr negative n (exponent - taken) rest

/-- What follows the whole part of a number; `left` digits of it were too many to stay exact. -/
def readNumberTail (negative : Bool) (n left : Nat) (s : List Char) : Reading Number :=
  match s with
  | '.' :: rest => readFraction negative n left rest
  | 'e' :: rest => readExponent negative n left rest
  | 'E' :: rest => readExponent negative n left rest
  | _ =>
    if left ≠ 0 then realOf negative n left s
    else if !negative then .ok (.natural n, s)
    else if n = 0 ∨ 1 <<< 63 < n then .ok (.real (-(Float.ofNat n)), s)
    else .ok (.negative n, s)

/-- A number after its sign. A leading zero stands alone. -/
def readNumber (negative : Bool) (s : List Char) : Reading Number :=
  match s with
  | [] => .error (.here .endInValue [])
  | '0' :: rest =>
    match rest with
    | c :: _ =>
      if (Decimal.digit? c).isSome then .error (.next .invalidNumber rest)
      else readNumberTail negative 0 0 rest
    | [] => readNumberTail negative 0 0 rest
  | c :: _ =>
    if (Decimal.digit? c).isNone then .error ⟨.invalidNumber, s, 1⟩
    else
      let (n, _, left, rest) := takeExact 0 0 s
      readNumberTail negative n left rest

/-! ### Skipping -/

def skipDigits (s : List Char) : List Char := (readDigits s).2

def skipExponent (s : List Char) : Except Fault (List Char) :=
  match skipSign s with
  | [] => .error (.here .invalidNumber [])
  | c :: r =>
    if (Decimal.digit? c).isSome then .ok (skipDigits r) else .error ⟨.invalidNumber, c :: r, 1⟩

def skipExponentOr : List Char → Except Fault (List Char)
  | 'e' :: s => skipExponent s
  | 'E' :: s => skipExponent s
  | s => .ok s

/-- Skip what follows the whole part of a number. -/
def skipNumberTail : List Char → Except Fault (List Char)
  | '.' :: s =>
    match readDigits s with
    | ([], _) => .error (.next .invalidNumber s)
    | (_, rest) => skipExponentOr rest
  | s => skipExponentOr s

def skipNumber (s : List Char) : Except Fault (List Char) :=
  match s with
  | [] => .error (.here .invalidNumber [])
  | '0' :: rest =>
    match rest with
    | c :: _ =>
      if (Decimal.digit? c).isSome then .error (.next .invalidNumber rest) else skipNumberTail rest
    | [] => .ok []
  | c :: rest =>
    if (Decimal.digit? c).isNone then .error ⟨.invalidNumber, s, 1⟩
    else skipNumberTail (skipDigits rest)

def skipString (s : List Char) : Except Fault (List Char) :=
  match s with
  | [] => .error (.here .endInString [])
  | '"' :: rest => .ok rest
  | '\\' :: [] => .error (.here .endInString [])
  | '\\' :: 'u' :: rest =>
    match _h : readHex rest with
    | .error f => .error f
    | .ok (_, rest') => skipString rest'
  | '\\' :: c :: rest =>
    if (simpleEscape? c).isSome then skipString rest else .error ⟨.invalidEscape, c :: rest, 1⟩
  | c :: rest => if c.toNat < 32 then .error (.here .controlCharacter s) else skipString rest
termination_by s.length
decreasing_by
  · have := readHex_length _h
    simp only [List.length_cons]
    omega
  · simp only [List.length_cons]
    omega
  · simp only [List.length_cons, Nat.lt_add_one]

/-- The containers around a value that is being skipped. -/
inductive Frame where
  | list
  | object
deriving DecidableEq, Repr

/-- Skip one value without inner values, or open a container (`none`). -/
def skipScalar (s : List Char) : Except Fault (List Char) :=
  match s with
  | [] => .error (.here .endInValue [])
  | 'n' :: r => readWord ['u', 'l', 'l'] r
  | 't' :: r => readWord ['r', 'u', 'e'] r
  | 'f' :: r => readWord ['a', 'l', 's', 'e'] r
  | '-' :: r => skipNumber r
  | '"' :: r => skipString r
  | c :: _ => if (Decimal.digit? c).isSome then skipNumber s else .error (.next .expectedValue s)

def skipKey (s : List Char) : Except Fault (List Char) :=
  match skipBlanks s with
  | [] => .error (.here .endInObject [])
  | '"' :: r =>
    match skipString r with
    | .error f => .error f
    | .ok r =>
      match skipBlanks r with
      | ':' :: r => .ok r
      | [] => .error (.here .endInObject [])
      | r => .error (.next .expectedColon r)
  | r => .error (.next .keyMustBeString r)

/-- Where a text stands while its values are skipped. -/
inductive SkipState where
  /-- In front of a value. -/
  | value
  /-- Behind a value. -/
  | after
  /-- Behind an opening bracket. -/
  | opened

/-- Skip values until all of the open containers are closed. Each step reads at least one
character or opens no container, so three steps for each character are enough. -/
def skipSteps : Nat → SkipState → List Frame → List Char → Except Fault (List Char)
  | 0, _, _, s => .error (.here .endInValue s)
  | steps + 1, .value, stack, s =>
    match skipBlanks s with
    | '[' :: r => skipSteps steps .opened (.list :: stack) r
    | '\x7b' :: r => skipSteps steps .opened (.object :: stack) r
    | r =>
      match skipScalar r with
      | .error f => .error f
      | .ok r => skipSteps steps .after stack r
  | _ + 1, .after, [], s => .ok s
  | steps + 1, .after, frame :: stack, s =>
    match frame, skipBlanks s with
    | .list, ',' :: r => skipSteps steps .value (.list :: stack) r
    | .object, ',' :: r =>
      match skipKey r with
      | .error f => .error f
      | .ok r => skipSteps steps .value (.object :: stack) r
    | .list, ']' :: r => skipSteps steps .after stack r
    | .object, '\x7d' :: r => skipSteps steps .after stack r
    | .list, [] => .error (.here .endInList [])
    | .object, [] => .error (.here .endInObject [])
    | .list, r => .error (.next .expectedCommaOrListEnd r)
    | .object, r => .error (.next .expectedCommaOrObjectEnd r)
  | _ + 1, .opened, [], s => .ok s
  | steps + 1, .opened, frame :: stack, s =>
    match frame, skipBlanks s with
    | .list, ']' :: r => skipSteps steps .after stack r
    | .object, '\x7d' :: r => skipSteps steps .after stack r
    | .list, [] => .error (.here .endInList [])
    | .object, [] => .error (.here .endInObject [])
    | .list, r => skipSteps steps .value (.list :: stack) r
    | .object, r =>
      match skipKey r with
      | .error f => .error f
      | .ok r => skipSteps steps .value (.object :: stack) r

def skipValue (s : List Char) : Except Fault (List Char) :=
  skipSteps (3 * s.length + 3) .value [] s

/-! ### Values of a kind that was asked for -/

/-- The fault of a value that is not of the kind asked for. Scalars are read to their end first, so
a fault inside them wins; lists and objects are refused at their bracket. -/
def wrongKind (expected : String) (s : List Char) : Fault :=
  match s with
  | [] => .here .endInValue []
  | 'n' :: r => scalar "null" (readWord ['u', 'l', 'l'] r)
  | 't' :: r => scalar "boolean `true`" (readWord ['r', 'u', 'e'] r)
  | 'f' :: r => scalar "boolean `false`" (readWord ['a', 'l', 's', 'e'] r)
  | '-' :: r => number (readNumber true r)
  | '"' :: r =>
    match readString r with
    | .error f => f
    | .ok (t, r) => .here (.wrongKind ("string " ++ Text.quoted t) expected) r
  | '[' :: _ => .here (.wrongKind "sequence" expected) s
  | '\x7b' :: _ => .here (.wrongKind "map" expected) s
  | c :: _ =>
    if (Decimal.digit? c).isSome then number (readNumber false s) else .next .expectedValue s
where
  scalar (found : String) : Except Fault (List Char) → Fault
    | .error f => f
    | .ok r => .here (.wrongKind found expected) r
  number : Reading Number → Fault
    | .error f => f
    | .ok (n, r) => .here (.wrongKind n.describe expected) r

/-- An unsigned number below `bound`, called `expected` in messages. -/
def readUnsigned (bound : Nat) (expected : String) (s : List Char) : Reading Nat :=
  match skipBlanks s with
  | '-' :: r => judge (readNumber true r)
  | r =>
    match r with
    | c :: _ =>
      if (Decimal.digit? c).isSome then judge (readNumber false r)
      else .error (wrongKind expected r)
    | [] => .error (wrongKind expected r)
where
  judge : Reading Number → Reading Nat
    | .error f => .error f
    | .ok (.natural n, r) =>
      if n < bound then .ok (n, r)
      else .error (.here (.wrongValue (Number.natural n).describe expected) r)
    | .ok (.negative n, r) =>
      .error (.here (.wrongValue (Number.negative n).describe expected) r)
    | .ok (.real x, r) => .error (.here (.wrongKind (Number.real x).describe expected) r)

def readBool (s : List Char) : Reading Bool :=
  match skipBlanks s with
  | 't' :: r => (readWord ['r', 'u', 'e'] r).map fun r => (true, r)
  | 'f' :: r => (readWord ['a', 'l', 's', 'e'] r).map fun r => (false, r)
  | r => .error (wrongKind "a boolean" r)

def readNull (s : List Char) : Except Fault (List Char) :=
  match skipBlanks s with
  | 'n' :: r => readWord ['u', 'l', 'l'] r
  | r => .error (wrongKind "unit" r)

def readColon (s : List Char) : Except Fault (List Char) :=
  match skipBlanks s with
  | ':' :: r => .ok r
  | [] => .error (.here .endInObject [])
  | r => .error (.next .expectedColon r)

/-- The null behind the only key of an object, and the brace behind that. -/
def readNullMember (s : List Char) : Except Fault (List Char) := do
  let r ← readNull (← readColon s)
  match skipBlanks r with
  | '\x7d' :: r => .ok r
  | [] => .error (.here .endInObject [])
  | r => .error (.here .expectedValue r)

/-- One of several names: a string, or an object whose only key is the name and whose value is
null. -/
def readName (known : List String) (s : List Char) : Except Fault (String × List Char) :=
  match skipBlanks s with
  | [] => .error (.here .endInValue [])
  | '"' :: r => do
    let (t, r) ← readString r
    judge t r
  | '\x7b' :: r =>
    match skipBlanks r with
    | '"' :: r => do
      let (t, r) ← readString r
      let (name, r) ← judge t r
      return (name, ← readNullMember r)
    | [] => .error (.here .endInValue [])
    | '\x7d' :: r => .error (.next .expectedValue ('\x7d' :: r))
    | r => .error (.next .keyMustBeString r)
  | r => .error (.next .expectedValue r)
where
  judge (t r : List Char) : Reading String :=
    let name := String.ofList t
    if name ∈ known then .ok (name, r) else .error (.here (.unknownVariant name known) r)

/-! ### Members and elements -/

/-- The next key of an object, or `none` at its closing brace, which is not consumed. -/
def readKey? (first : Bool) (s : List Char) : Reading (Option (List Char)) :=
  match skipBlanks s with
  | [] => .error (.here .endInObject [])
  | '\x7d' :: r => .ok (none, '\x7d' :: r)
  | c :: r =>
    if first then
      if c = '"' then key r else .error (.next .keyMustBeString (c :: r))
    else if c = ',' then
      match skipBlanks r with
      | '"' :: r => key r
      | '\x7d' :: r => .error (.next .trailingComma ('\x7d' :: r))
      | [] => .error (.here .endInValue [])
      | r => .error (.next .keyMustBeString r)
    else .error (.next .expectedCommaOrObjectEnd (c :: r))
where
  key (r : List Char) : Reading (Option (List Char)) :=
    (readString r).map fun (t, r) => (some t, r)

/-- Whether a list has another element; its closing bracket is not consumed. -/
def readElement? (first : Bool) (s : List Char) : Reading Bool :=
  match skipBlanks s with
  | [] => .error (.here .endInList [])
  | ']' :: r => .ok (false, ']' :: r)
  | c :: r =>
    if first then .ok (true, c :: r)
    else if c = ',' then
      match skipBlanks r with
      | ']' :: r => .error (.next .trailingComma (']' :: r))
      | [] => .error (.here .endInValue [])
      | r => .ok (true, r)
    else .error (.next .expectedCommaOrListEnd (c :: r))

def closeObject (s : List Char) : Except Fault (List Char) :=
  match skipBlanks s with
  | '\x7d' :: r => .ok r
  | [] => .error (.here .endInObject [])
  | ',' :: r => .error (.next .trailingComma (',' :: r))
  | r => .error (.next .trailingCharacters r)

/-- The closing bracket of a list whose wanted elements have all been read. -/
def closeList (s : List Char) : Except Fault (List Char) :=
  match skipBlanks s with
  | ']' :: r => .ok r
  | [] => .error (.here .endInList [])
  | ',' :: r =>
    match skipBlanks r with
    | ']' :: r => .error (.next .trailingComma (']' :: r))
    | r => .error (.next .trailingCharacters r)
  | r => .error (.next .trailingCharacters r)

/-- Where the reader stands when a fault of an object as a whole is reported: behind its brace, if
that comes next. -/
def afterObject (s : List Char) : List Char :=
  match skipBlanks s with
  | '\x7d' :: r => r
  | r => r

/-- Where the reader stands when a fault of a list as a whole is reported: behind its bracket, if
that comes next, or behind a comma. -/
def afterList (s : List Char) : List Char :=
  match skipBlanks s with
  | ']' :: r => r
  | ',' :: r => skipBlanks r
  | r => r

/-- Nothing but blanks is left. -/
def expectEnd (s : List Char) : Except Fault Unit :=
  match skipBlanks s with
  | [] => .ok ()
  | r => .error (.next .trailingCharacters r)

end Iconsmith.Json
