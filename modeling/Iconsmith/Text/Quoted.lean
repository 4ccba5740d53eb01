import Iconsmith.Text.PrintData

/-!
A text between quotation marks for a message: quotes, backslashes and characters that could not be
seen are escaped.
-/

namespace Iconsmith.Text

/-- The character is shown as it is: it has a visible form and stands on its own. -/
def isPrintable (c : Char) : Bool :=
  let n := c.toNat
  if n < 128 then 32 ≤ n && n < 127
  else
    let within := fun (lo, hi) => lo ≤ n && n ≤ hi
    !unprintableRanges.any within && !graphemeExtendRanges.any within

def hexDigits (n : Nat) : List Char := Nat.toDigits 16 n

def quoteChar (c : Char) : List Char :=
  if c = '\x00' then ['\\', '0']
  else if c = '\t' then ['\\', 't']
  else if c = '\r' then ['\\', 'r']
  else if c = '\n' then ['\\', 'n']
  else if c = '"' then ['\\', '"']
  else if c = '\\' then ['\\', '\\']
  else if isPrintable c then [c]
  else ['\\', 'u', '\x7b'] ++ hexDigits c.toNat ++ ['\x7d']

def quoted (s : List Char) : String := String.ofList ('"' :: s.flatMap quoteChar ++ ['"'])

end Iconsmith.Text
