import Iconsmith.Geometry.Transform
import Iconsmith.Svg.Number

/-!
Lists of transformations, as attributes are written. They are composed with double precision and
rounded once.
-/

namespace Iconsmith.Svg

open Iconsmith.Geometry

/-- The map to `(a * x + c * y + e, b * x + d * y + f)`. -/
structure Matrix where
  a : Float
  b : Float
  c : Float
  d : Float
  e : Float
  f : Float
deriving Repr

namespace Matrix

def identity : Matrix := ⟨1, 0, 0, 1, 0, 0⟩

/-- First the second map, then the first one. -/
def after (m n : Matrix) : Matrix :=
  ⟨m.a * n.a + m.c * n.b, m.b * n.a + m.d * n.b, m.a * n.c + m.c * n.d, m.b * n.c + m.d * n.d,
    m.a * n.e + m.c * n.f + m.e, m.b * n.e + m.d * n.f + m.f⟩

def pi : Float := 3.14159265358979323846

def radians (degrees : Float) : Float := degrees * (pi / 180)

def rotation (degrees : Float) : Matrix :=
  let angle := radians degrees
  ⟨angle.cos, angle.sin, -angle.sin, angle.cos, 0, 0⟩

def shift (x y : Float) : Matrix := ⟨1, 0, 0, 1, x, y⟩

def toTransform (m : Matrix) : Transform :=
  ⟨m.a.toFloat32, m.b.toFloat32, m.c.toFloat32, m.d.toFloat32, m.e.toFloat32, m.f.toFloat32⟩

/-- The numbers up to a closing parenthesis; at least one and at most `limit`. -/
def readNumbers : Nat → List Char → Option (List Float × List Char)
  | 0, s => some ([], s)
  | limit + 1, s =>
    (readListNumber s).bind fun (x, rest) =>
      match skipBlanks rest with
      | ')' :: _ => some ([x], rest)
      | rest => (readNumbers limit rest).map fun (xs, rest) => (x :: xs, rest)

/-- The maps of one transformation, from the outer one to the inner one. -/
def named? : String → List Float → Option (List Matrix)
  | "matrix", [a, b, c, d, e, f] => some [⟨a, b, c, d, e, f⟩]
  | "translate", [x] => some [shift x 0]
  | "translate", [x, y] => some [shift x y]
  | "scale", [x] => some [⟨x, 0, 0, x, 0, 0⟩]
  | "scale", [x, y] => some [⟨x, 0, 0, y, 0, 0⟩]
  | "rotate", [angle] => some [rotation angle]
  | "rotate", [angle, x, y] => some [shift x y, rotation angle, shift (-x) (-y)]
  | "skewX", [angle] => some [⟨1, 0, (radians angle).tan, 1, 0, 0⟩]
  | "skewY", [angle] => some [⟨1, (radians angle).tan, 0, 1, 0, 0⟩]
  | _, _ => none

/-- Compose the transformations of a list with what stands in front of them. -/
def readList : Nat → Matrix → List Char → Option Matrix
  | 0, _, _ => none
  | fuel + 1, m, s =>
    if isDone s then some m
    else do
      let (word, rest) := readWord (skipBlanks s)
      let rest ← expect '(' (skipBlanks rest)
      let (numbers, rest) ← readNumbers 6 rest
      let rest ← expect ')' (skipBlanks rest)
      let maps ← named? word numbers
      readList fuel (maps.foldl after m) (skipSeparator rest)

def parse? (s : String) : Option Matrix := readList (s.length + 1) identity s.toList

end Matrix

def transform? (s : String) : Option Transform := (Matrix.parse? s).map Matrix.toTransform

end Iconsmith.Svg
