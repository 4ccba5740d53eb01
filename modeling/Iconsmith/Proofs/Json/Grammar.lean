import Iconsmith.Json.Reader

/-! The grammar of JSON texts, as relations between a text, what it starts with,
and what follows that. A part takes in all characters that can belong to it, so
a number ends where no digit follows. A string stands for the units of 16 bits
that its characters and escapes name, whether or not these pair up. Nothing
here refers to a reader; a text has at most one derivation. -/
namespace Iconsmith.Json

/-! ### Blanks and numbers -/

/-- Blanks stand between `s` and the rest `r` of it. -/
def Blanks (s r : List Char) : Prop := ∃ b, (∀ c ∈ b, isBlank c = true) ∧ s = b ++ r

/-- A decimal digit. -/
def IsDigit (c : Char) : Prop := '0' ≤ c ∧ c ≤ '9'

/-- No digit comes next. -/
def NoDigit (r : List Char) : Prop := ∀ c t, r = c :: t → ¬IsDigit c

/-- One or more digits, as many as there are. -/
structure Digits (ds s r : List Char) : Prop where
  ne_nil : ds ≠ []
  isDigit : ∀ c ∈ ds, IsDigit c
  eq_append : s = ds ++ r
  noDigit : NoDigit r

/-- The digits in front of the point. A leading zero stands alone. -/
inductive Whole : List Char → List Char → List Char → Prop where
  | zero {r : List Char} (h : NoDigit r) : Whole ['0'] ('0' :: r) r
  | digits {c : Char} {ds s r : List Char} (hc : c ≠ '0') (h : Digits (c :: ds) s r) :
      Whole (c :: ds) s r

/-- The digits behind the point, or none without a point. -/
inductive Fraction : List Char → List Char → List Char → Prop where
  | none {r : List Char} (h : r.head? ≠ some '.') : Fraction [] r r
  | digits {ds s r : List Char} (h : Digits ds s r) : Fraction ds ('.' :: s) r

/-- An optional sign. -/
inductive Sign : List Char → List Char → List Char → Prop where
  | none {r : List Char} (hPlus : r.head? ≠ some '+') (hMinus : r.head? ≠ some '-') : Sign [] r r
  | plus {r : List Char} : Sign ['+'] ('+' :: r) r
  | minus {r : List Char} : Sign ['-'] ('-' :: r) r

/-- The sign and the digits of an exponent, or nothing without its letter. -/
inductive Exponent : List Char → List Char → List Char → Prop where
  | none {r : List Char} (hLower : r.head? ≠ some 'e') (hUpper : r.head? ≠ some 'E') :
      Exponent [] r r
  | digits {e : Char} {sign ds s t r : List Char} (he : e = 'e' ∨ e = 'E') (hSign : Sign sign s t)
      (h : Digits ds t r) : Exponent (sign ++ ds) (e :: s) r

/-- A number as it is spelled. -/
structure Numeral where
  negative : Bool
  whole : List Char
  fraction : List Char
  exponent : List Char

/-- A number without its sign. -/
structure Unsigned (whole fraction exponent s r : List Char) : Prop where
  parts : ∃ s₁ s₂, Whole whole s s₁ ∧ Fraction fraction s₁ s₂ ∧ Exponent exponent s₂ r

/-- A number. -/
inductive Numeral.Written : Numeral → List Char → List Char → Prop where
  | positive {w f e s r : List Char} (h : Unsigned w f e s r) : Written ⟨false, w, f, e⟩ s r
  | negative {w f e s r : List Char} (h : Unsigned w f e s r) : Written ⟨true, w, f, e⟩ ('-' :: s) r

/-! ### Strings -/

/-- The units of 16 bits of a character: itself, or a pair of surrogates. -/
def unitsOf (c : Char) : List Nat :=
  if c.toNat < 0x10000 then [c.toNat]
  else [0xD800 + (c.toNat - 0x10000) / 1024, 0xDC00 + (c.toNat - 0x10000) % 1024]

/-- The number of four hexadecimal digits. -/
def hexUnit? (a b c d : Char) : Option Nat := do
  let a ← hexDigit? a
  let b ← hexDigit? b
  let c ← hexDigit? c
  let d ← hexDigit? d
  return ((a * 16 + b) * 16 + c) * 16 + d

/-- The units of a string and the text behind its opening quote. -/
inductive Units : List Nat → List Char → List Char → Prop where
  | close {r : List Char} : Units [] ('"' :: r) r
  | plain {c : Char} {us : List Nat} {s r : List Char} (hQuote : c ≠ '"') (hEscape : c ≠ '\\')
      (hControl : 32 ≤ c.toNat) (h : Units us s r) : Units (unitsOf c ++ us) (c :: s) r
  | simple {e c : Char} {us : List Nat} {s r : List Char} (he : simpleEscape? e = some c)
      (h : Units us s r) : Units (c.toNat :: us) ('\\' :: e :: s) r
  | hex {a b c d : Char} {u : Nat} {us : List Nat} {s r : List Char}
      (hu : hexUnit? a b c d = some u) (h : Units us s r) :
      Units (u :: us) ('\\' :: 'u' :: a :: b :: c :: d :: s) r

/-- A unit that is the first half of a pair. -/
def IsHigh (u : Nat) : Prop := 0xD800 ≤ u ∧ u ≤ 0xDBFF

/-- A unit that is the second half of a pair. -/
def IsLow (u : Nat) : Prop := 0xDC00 ≤ u ∧ u ≤ 0xDFFF

instance (u : Nat) : Decidable (IsHigh u) := instDecidableAnd

instance (u : Nat) : Decidable (IsLow u) := instDecidableAnd

/-- The character of a pair. -/
def pairOf (high low : Nat) : Char :=
  Char.ofNat ((high - 0xD800) * 1024 + (low - 0xDC00) + 0x10000)

/-- The characters that units stand for. There are none if a half of a pair
stands alone. -/
def decode : List Nat → Option (List Char)
  | [] => some []
  | [u] => if IsHigh u ∨ IsLow u then none else some [Char.ofNat u]
  | u :: v :: us =>
    if IsHigh u ∧ IsLow v then (decode us).map (pairOf u v :: ·)
    else if IsHigh u ∨ IsLow u then none
    else (decode (v :: us)).map (Char.ofNat u :: ·)

/-! ### Values -/

/-- A value. Strings and keys are given by their units. -/
inductive Value where
  | null
  | bool (b : Bool)
  | number (n : Numeral)
  | string (units : List Nat)
  | list (elements : List Value)
  | object (members : List (List Nat × Value))

/-- What stands in front of an element or member: nothing before the first one,
a comma before the others. -/
inductive Separator : Bool → List Char → List Char → Prop where
  | first {s : List Char} : Separator true s s
  | comma {s t : List Char} (h : Blanks s (',' :: t)) : Separator false s t

mutual

/-- The text `s` starts with a value, and `r` follows. -/
inductive Written : Value → List Char → List Char → Prop where
  | null {r : List Char} : Written .null ('n' :: 'u' :: 'l' :: 'l' :: r) r
  | boolTrue {r : List Char} : Written (.bool true) ('t' :: 'r' :: 'u' :: 'e' :: r) r
  | boolFalse {r : List Char} : Written (.bool false) ('f' :: 'a' :: 'l' :: 's' :: 'e' :: r) r
  | number {n : Numeral} {s r : List Char} (h : n.Written s r) : Written (.number n) s r
  | string {us : List Nat} {s r : List Char} (h : Units us s r) : Written (.string us) ('"' :: s) r
  | list {vs : List Value} {s r : List Char} (h : Elements true vs s r) :
      Written (.list vs) ('[' :: s) r
  | object {ms : List (List Nat × Value)} {s r : List Char} (h : Members true ms s r) :
      Written (.object ms) ('\x7b' :: s) r

/-- The elements of a list up to its closing bracket; the first argument tells
whether none stands in front of them. -/
inductive Elements : Bool → List Value → List Char → List Char → Prop where
  | close {first : Bool} {s r : List Char} (h : Blanks s (']' :: r)) : Elements first [] s r
  | element {first : Bool} {v : Value} {vs : List Value} {s s₁ s₂ s₃ r : List Char}
      (hSeparator : Separator first s s₁) (hBlanks : Blanks s₁ s₂) (hValue : Written v s₂ s₃)
      (hMore : Elements false vs s₃ r) : Elements first (v :: vs) s r

/-- The members of an object up to its closing brace. -/
inductive Members : Bool → List (List Nat × Value) → List Char → List Char → Prop where
  | close {first : Bool} {s r : List Char} (h : Blanks s ('\x7d' :: r)) : Members first [] s r
  | member {first : Bool} {key : List Nat} {v : Value} {ms : List (List Nat × Value)}
      {s s₁ s₂ s₃ s₄ s₅ s₆ r : List Char} (hSeparator : Separator first s s₁)
      (hBlanks : Blanks s₁ ('"' :: s₂)) (hKey : Units key s₂ s₃) (hColon : Blanks s₃ (':' :: s₄))
      (hBlanks' : Blanks s₄ s₅) (hValue : Written v s₅ s₆) (hMore : Members false ms s₆ r) :
      Members first ((key, v) :: ms) s r

end

/-- A whole text: one value with blanks around it. -/
structure Text (v : Value) (s : List Char) : Prop where
  written : ∃ s₁ s₂, Blanks s s₁ ∧ Written v s₁ s₂ ∧ Blanks s₂ []

end Iconsmith.Json
