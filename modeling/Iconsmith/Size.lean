import Iconsmith.Decimal
import Iconsmith.Failure
import Iconsmith.Text.Blank
import Iconsmith.Text.Lowercase

/-!
Sizes of rasters, written `WxH`. Reading also takes a comma for the `x` and one number for a
square; both sides must be positive.
-/

namespace Iconsmith

/-- A width and a height in pixels. Zero is possible in a settings file and refused where a size
is read from text. -/
structure Size where
  width : UInt32
  height : UInt32
deriving DecidableEq, Repr

namespace Size

/-- The written form `WxH`. -/
def text (s : Size) : String :=
  Decimal.text s.width.toNat ++ "x" ++ Decimal.text s.height.toNat

/-- Number of pixels, without wrap-around. -/
def area (s : Size) : Nat := s.width.toNat * s.height.toNat

/-- Bytes of an image of this size, four for each pixel. -/
def bytes (s : Size) : Nat := 4 * s.area

/-- One side of a written size: a number between 1 and `2^32 - 1`. -/
def side? (part : List Char) : Option UInt32 :=
  (Decimal.ofUnsigned32? part).bind fun n => if n = 0 then none else some n

/-- Cut at the first `x` or comma, which is left out. -/
def cut (s : List Char) : Option (List Char × List Char) :=
  match s.span (fun c => c != 'x' && c != ',') with
  | (before, _ :: after) => some (before, after)
  | (_, []) => none

/-- The two sides of a text that is trimmed and in lower case. -/
def sides? (s : List Char) : Option Size :=
  let (w, h) :=
    match cut s with
    | some (w, h) => (Text.trim w, Text.trim h)
    | none => (s, s)
  (side? w).bind fun width => (side? h).map fun height => ⟨width, height⟩

/-- Read a written size. Blanks around the text and around each number are dropped and case does
not matter; the message of a refusal quotes the trimmed text in lower case. -/
def parse (s : String) : Except Failure Size :=
  let plain := Text.lowercase (Text.trim s.toList)
  match sides? plain with
  | some size => .ok size
  | none => .error (.badSize (String.ofList plain))

end Size
end Iconsmith
