/-!
White space as Unicode defines it (the property `White_Space`), and text without the white space
at its two ends.
-/

namespace Iconsmith.Text

/-- The characters with the Unicode property `White_Space`. The zero-width space and the
byte-order mark do not have it. -/
def isBlank (c : Char) : Bool :=
  let n := c.toNat
  (9 ≤ n && n ≤ 13) || n == 0x20 || n == 0x85 || n == 0xA0 || n == 0x1680 ||
    (0x2000 ≤ n && n ≤ 0x200A) || n == 0x2028 || n == 0x2029 || n == 0x202F || n == 0x205F ||
    n == 0x3000

def trimLeft (s : List Char) : List Char := s.dropWhile isBlank

def trimRight (s : List Char) : List Char := (s.reverse.dropWhile isBlank).reverse

/-- Drop the white space at both ends; blanks between other characters stay. -/
def trim (s : List Char) : List Char := trimRight (trimLeft s)

end Iconsmith.Text
