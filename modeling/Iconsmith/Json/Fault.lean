import Iconsmith.Decimal

/-!
What is wrong with a JSON text, and where. A fault remembers the unread text at the moment it was
noticed, so its line and column follow from the source alone.
-/

namespace Iconsmith.Json

/-- The reasons for which a JSON text is refused. The last seven concern the shape of the value
that is being read and not the grammar. -/
inductive Cause where
  | endInList
  | endInObject
  | endInString
  | endInValue
  | expectedColon
  | expectedCommaOrListEnd
  | expectedCommaOrObjectEnd
  | expectedWord
  | expectedValue
  | invalidEscape
  | invalidNumber
  | numberOutOfRange
  | keyMustBeString
  | controlCharacter
  | loneSurrogate
  | unfinishedSurrogatePair
  | trailingComma
  | trailingCharacters
  | wrongKind (found expected : String)
  /-- A number of the right kind outside its range. -/
  | wrongValue (found expected : String)
  | unknownVariant (name : String) (known : List String)
  | missingField (name : String)
  | duplicateField (name : String)
  | wrongLength (length : Nat) (expected : String)
deriving DecidableEq, Repr

/-- The names between backticks, the last two of them joined by `or` when there are just two. -/
def nameList : List String → String
  | [] => "there are no variants"
  | [a] => "expected `" ++ a ++ "`"
  | [a, b] => "expected `" ++ a ++ "` or `" ++ b ++ "`"
  | names => "expected one of " ++ ", ".intercalate (names.map fun n => "`" ++ n ++ "`")

def Cause.message : Cause → String
  | endInList => "EOF while parsing a list"
  | endInObject => "EOF while parsing an object"
  | endInString => "EOF while parsing a string"
  | endInValue => "EOF while parsing a value"
  | expectedColon => "expected `:`"
  | expectedCommaOrListEnd => "expected `,` or `]`"
  | expectedCommaOrObjectEnd => "expected `,` or `\x7d`"
  | expectedWord => "expected ident"
  | expectedValue => "expected value"
  | invalidEscape => "invalid escape"
  | invalidNumber => "invalid number"
  | numberOutOfRange => "number out of range"
  | keyMustBeString => "key must be a string"
  | controlCharacter => "control character (\\u0000-\\u001F) found while parsing a string"
  | loneSurrogate => "lone leading surrogate in hex escape"
  | unfinishedSurrogatePair => "unexpected end of hex escape"
  | trailingComma => "trailing comma"
  | trailingCharacters => "trailing characters"
  | wrongKind found expected => "invalid type: " ++ found ++ ", expected " ++ expected
  | wrongValue found expected => "invalid value: " ++ found ++ ", expected " ++ expected
  | unknownVariant name known => "unknown variant `" ++ name ++ "`, " ++ nameList known
  | missingField name => "missing field `" ++ name ++ "`"
  | duplicateField name => "duplicate field `" ++ name ++ "`"
  | wrongLength n expected =>
    "invalid length " ++ Decimal.text n ++ ", expected " ++ expected

/-- A refused text: the cause, the text that was still unread, and how many bytes of it the reader
had looked at. -/
structure Fault where
  cause : Cause
  rest : List Char
  ahead : Nat
deriving DecidableEq, Repr

def byteLength (s : List Char) : Nat := s.foldr (fun c n => c.utf8Size + n) 0

/-- The line and column reached after `count` bytes of a text. A column is a number of bytes since
the last line feed. -/
def position (count : Nat) (line column : Nat) : List Char → Nat × Nat
  | [] => (line, column)
  | c :: rest =>
    if count < c.utf8Size then (line, column + count)
    else if c = '\n' then position (count - 1) (line + 1) 0 rest
    else position (count - c.utf8Size) line (column + c.utf8Size) rest

namespace Fault

/-- The reader stands in front of `rest` and has not looked further. -/
def here (cause : Cause) (rest : List Char) : Fault := ⟨cause, rest, 0⟩

/-- The reader stands in front of `rest` and objects to its first byte, if there is one. -/
def next (cause : Cause) (rest : List Char) : Fault :=
  ⟨cause, rest, if rest.isEmpty then 0 else 1⟩

/-- The wording of a fault in a given source, with its line and column. -/
def message (f : Fault) (source : List Char) : String :=
  let (line, column) := position (byteLength source - byteLength f.rest + f.ahead) 1 0 source
  f.cause.message ++ " at line " ++ Decimal.text line ++ " column " ++ Decimal.text column

end Fault
end Iconsmith.Json
