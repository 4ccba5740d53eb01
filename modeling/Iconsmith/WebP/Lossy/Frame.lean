import Iconsmith.Bitmap
import Iconsmith.WebP.Lossy.Smoothing

/-!
Lossy images as a whole: squares are predicted and corrected one after the other, edges are smoothed
when all of them are there, and the planes are turned into colours.
-/

namespace Iconsmith.WebP.Lossy

open Codec

/-- A square with its differences to the prediction. -/
structure Corrected where
  square : Square
  residue : Residue

/-- The parts with coefficients: all but the last have their lengths in front of them. -/
def splitParts (b : ByteArray) : Nat → Nat → Nat → List ByteArray → Except Fault (List ByteArray)
  | 0, _, start, acc => .ok ((Bytes.slice b start (b.size - start) :: acc).reverse)
  | count + 1, lengthAt, start, acc =>
    let length := Bytes.le16 b lengthAt + Bytes.nat b (lengthAt + 2) * 65536
    if b.size < start + length then .error .shortRead
    else splitParts b count (lengthAt + 3) (start + length) (Bytes.slice b start length :: acc)

/-- Edges where nothing had coefficients. -/
def noEdge : Edge := Array.replicate 9 false

def readRow (h : Header) : List (Square × Nat) → Edge → Array Edge → Array Corrected →
    Decisions (Array Edge × Array Corrected)
  | [], _, above, acc => pure (above, acc)
  | (s, x) :: rest, left, above, acc => do
    let f ← readResidue h s ((above[x]?).getD noEdge) left
    readRow h rest f.left (above.setIfInBounds x f.above) (acc.push ⟨s, f.residue⟩)

/-- Read the coefficients of rows of squares. The rows take turns with the parts. -/
def readRows (h : Header) (across : Nat) (squares : Array Square) :
    List Nat → Array Cursor → Array Edge → Array Corrected → Except Fault (Array Corrected)
  | [], _, _, acc => .ok acc
  | y :: rest, parts, above, acc =>
    match parts[y % parts.size]? with
    | none => .error (malformed "Corrupt bitstream")
    | some c => do
      let row := (squares.extract (y * across) ((y + 1) * across)).toList.zipIdx
      let ((above, acc), c) ← (readRow h row noEdge above acc).run c
      readRows h across squares rest (parts.setIfInBounds (y % parts.size) c) above acc

def Planes.add (p : Planes) (c : Corrected) (mx my : Nat) : Planes :=
  let blockAt (k i : Nat) : Block := (c.residue.blocks[k + i]?).getD .zero
  let x := 16 * mx
  let y := 16 * my
  { luma := match c.square.luma with
      | .whole m => p.luma.putWhole m x y 16 (blockAt 0)
      | .blocks modes => p.luma.putBlocks modes x y (blockAt 0)
    blue := p.blue.putWhole c.square.chroma (8 * mx) (8 * my) 8 (blockAt 16)
    red := p.red.putWhole c.square.chroma (8 * mx) (8 * my) 8 (blockAt 20) }

def Planes.smooth (p : Planes) (h : Header) (c : Corrected) (mx my : Nat) : Planes :=
  let hasBlocks := match c.square.luma with
    | .whole _ => false
    | .blocks _ => true
  let kind := ((h.kinds[c.square.kind]?).map Kind.smoothing).getD 0
  p.smoothSquare h.smoothing (h.smoothing.levelOf kind hasBlocks) mx my
    (hasBlocks || c.residue.isSome)

def readFrame (b : ByteArray) : Except Fault (Size × Planes) := do
  let (size, length) ← readLossySides.result b 0
  let width := size.width.toNat
  let height := size.height.toNat
  if b.size < 10 + length then throw .shortRead
  let (h, c) ← (readHeader width height).run (.ofBytes (Bytes.slice b 10 length))
  let across := (width + 15) / 16
  let down := (height + 15) / 16
  let count := 1 <<< h.parts
  let rest := Bytes.slice b (10 + length) (b.size - 10 - length)
  if rest.size < 3 * (count - 1) then throw .shortRead
  let parts ← splitParts rest (count - 1) 0 (3 * (count - 1)) []
  let squares ← (readSquares h across (across * down) #[]).run' c
  let all ← readRows h across squares (List.range down) (parts.map Cursor.ofBytes).toArray
    (Array.replicate across noEdge) #[]
  let blank : Planes := ⟨.ofSides (16 * across) (16 * down), .ofSides (8 * across) (8 * down),
    .ofSides (8 * across) (8 * down)⟩
  let overAll (f : Planes → Corrected → Nat → Nat → Planes) (p : Planes) : Planes :=
    all.toList.zipIdx.foldl (fun p (c, i) => f p c (i % across) (i / across)) p
  return (size, overAll (fun p c => p.smooth h c) (overAll Planes.add blank))

/-- A sample of colour difference at a place of the image: three quarters come from the nearer row and
column, one quarter from the next. `w` and `h` are the sides of the plane that count. -/
def Plane.stretched (p : Plane) (w h x y : Nat) : Int :=
  let near (i side : Nat) : Nat × Nat :=
    (i / 2, if i % 2 = 0 then i / 2 - 1 else min (i / 2 + 1) (side - 1))
  let (cx, nx) := near x w
  let (cy, ny) := near y h
  (9 * p.sample cx cy + 3 * p.sample nx cy + 3 * p.sample cx ny + p.sample nx ny + 8) / 16

def colour (y blue red : Int) : Pixel :=
  let share (v k : Int) : Int := v * k / 256
  let sample (n : Int) : UInt8 := (max 0 (min 255 (n / 64))).toNat.toUInt8
  let base := share y 19077
  ⟨sample (base + share red 26149 - 14234),
    sample (base - share blue 6419 - share red 13320 + 8708),
    sample (base + share blue 33050 - 17685), 255⟩

def Planes.pixels (p : Planes) (s : Size) : Array Pixel :=
  let width := s.width.toNat
  let w := (width + 1) / 2
  let h := (s.height.toNat + 1) / 2
  Array.ofFn (n := s.area) fun i =>
    let x := i.val % width
    let y := i.val / width
    colour (p.luma.sample x y) (p.blue.stretched w h x y) (p.red.stretched w h x y)

end Iconsmith.WebP.Lossy
