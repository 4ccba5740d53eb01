/-!
Natural numbers in decimal: the digits of a number, the number of a row of digits, and the form
that a field of a size or an option takes (an optional plus sign, then digits).
-/

namespace Iconsmith.Decimal

def digit? (c : Char) : Option Nat :=
  if '0' ≤ c ∧ c ≤ '9' then some (c.toNat - '0'.toNat) else none

/-- Continue the number `acc` with further digits; anything else than a digit is refused. -/
def digitsFrom? (acc : Nat) : List Char → Option Nat
  | [] => some acc
  | c :: rest => (digit? c).bind fun d => digitsFrom? (acc * 10 + d) rest

/-- The value of one or more digits. -/
def ofDigits? : List Char → Option Nat
  | [] => none
  | s => digitsFrom? 0 s

/-- The value of an optional plus sign followed by one or more digits. -/
def ofUnsigned? : List Char → Option Nat
  | '+' :: rest => ofDigits? rest
  | s => ofDigits? s

/-- An unsigned number that fits in 32 bits. -/
def ofUnsigned32? (s : List Char) : Option UInt32 :=
  (ofUnsigned? s).bind fun n => if n < UInt32.size then some n.toUInt32 else none

/-- The digits of a number, most significant first, without leading zeros. -/
def digits (n : Nat) : List Char :=
  if h : n < 10 then [Char.ofNat (48 + n)]
  else digits (n / 10) ++ [Char.ofNat (48 + n % 10)]
termination_by n

def text (n : Nat) : String := String.ofList (digits n)

def signed (n : Int) : String := if n < 0 then "-" ++ text n.natAbs else text n.natAbs

/-- A quotient of naturals with two places after the point, rounded to the nearest hundredth; an
exact half goes to the even neighbour. -/
def twoPlaces (num den : Nat) : String :=
  let scaled := num * 100
  let q := scaled / den
  let r := scaled % den
  let hundredths := if 2 * r > den || (2 * r == den && q % 2 == 1) then q + 1 else q
  let cents := hundredths % 100
  text (hundredths / 100) ++ "." ++ (if cents < 10 then "0" else "") ++ text cents

end Iconsmith.Decimal
