import Iconsmith.Bytes

/-!
Rows of filtered bytes. A filter predicts a byte from the bytes to its left, above it, and above
to the left; the file holds the differences.
-/

namespace Iconsmith.Png

inductive RowFilter where
  | none
  | sub
  | up
  | average
  | paeth
deriving DecidableEq, Repr

namespace RowFilter

def ofCode? : Nat → Option RowFilter
  | 0 => some none
  | 1 => some sub
  | 2 => some up
  | 3 => some average
  | 4 => some paeth
  | _ => Option.none

def code : RowFilter → UInt8
  | none => 0
  | sub => 1
  | up => 2
  | average => 3
  | paeth => 4

/-- The neighbour nearest to left plus above minus corner; ties go to the left, then above. -/
def nearestNeighbour (left above corner : Nat) : Nat :=
  let p : Int := left + above - corner
  let dl := (p - left).natAbs
  let da := (p - above).natAbs
  let dc := (p - corner).natAbs
  if dl ≤ da && dl ≤ dc then left else if da ≤ dc then above else corner

def predict (f : RowFilter) (left above corner : UInt8) : UInt8 :=
  match f with
  | none => 0
  | sub => left
  | up => above
  | average => ((left.toNat + above.toNat) / 2).toUInt8
  | paeth => (nearestNeighbour left.toNat above.toNat corner.toNat).toUInt8

/-- The byte that is predicted at position `i` of a row with a row above it. `step` is the distance in
bytes to the pixel on the left. -/
def guess (f : RowFilter) (step : Nat) (above row : ByteArray) (i : Nat) : UInt8 :=
  let left := if i < step then 0 else Bytes.byte row (i - step)
  let corner := if i < step then 0 else Bytes.byte above (i - step)
  f.predict left (Bytes.byte above i) corner

def apply (f : RowFilter) (step : Nat) (above row : ByteArray) : ByteArray :=
  match f with
  | none => row
  | f => Bytes.ofList ((List.range row.size).map fun i => Bytes.byte row i - f.guess step above row i)

/-- Undo a filter on `count` bytes from position `start` of the data; `row` holds the bytes done. -/
def undo (f : RowFilter) (data : ByteArray) (start step : Nat) (above : ByteArray) :
    Nat → ByteArray → ByteArray
  | 0, row => row
  | count + 1, row =>
    let v := Bytes.byte data (start + row.size) + f.guess step above row row.size
    undo f data start step above count (row.push v)

end RowFilter

/-- The rows of an image or of a pass, each a filter byte and `bytes` filtered bytes, from position
`start` of the data on. Gives the number of an unknown filter as the error. -/
def unfilterRows (data : ByteArray) (bytes step : Nat) :
    Nat → Nat → ByteArray → Array ByteArray → Except Nat (Array ByteArray)
  | 0, _, _, rows => .ok rows
  | count + 1, start, above, rows =>
    let code := Bytes.nat data start
    match RowFilter.ofCode? code with
    | none => .error code
    | some f =>
      let row := f.undo data (start + 1) step above bytes .empty
      unfilterRows data bytes step count (start + 1 + bytes) row (rows.push row)

end Iconsmith.Png
