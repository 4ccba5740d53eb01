import Iconsmith.WebP.Lossy.Coefficients

/-!
Planes of samples and the prediction of their blocks from the samples above and on the left. Around
the plane samples are 127 above and 129 on the left.
-/

namespace Iconsmith.WebP.Lossy

/-- Samples row by row. -/
structure Plane where
  width : Nat
  samples : Array UInt8

namespace Plane

def ofSides (width height : Nat) : Plane := ⟨width, Array.replicate (width * height) 0⟩

@[inline]
def sample (p : Plane) (x y : Nat) : Int := (((p.samples[y * p.width + x]?).getD 0).toNat : Nat)

/-- The sample at a place of the plane or around it; the place is one to the left and above. -/
def around (p : Plane) (x y : Nat) : Int :=
  if y = 0 then 127 else if x = 0 then 129 else p.sample (x - 1) (y - 1)

/-- Put a number, brought into range, at a place. -/
@[inline]
def put (p : Plane) (x y : Nat) (v : Int) : Plane :=
  { p with samples := p.samples.setIfInBounds (y * p.width + x) (max 0 (min v 255)).toNat.toUInt8 }

def putBlock (p : Plane) (x y side : Nat) (v : Nat → Nat → Int) : Plane :=
  (List.range (side * side)).foldl
    (fun p i => p.put (x + i % side) (y + i / side) (v (i % side) (i / side))) p

/-- The mean of the samples above a block of `side` by `side` samples and on its left, as far as they
exist. -/
def mean (p : Plane) (x y side : Nat) : Int :=
  let sum (v : Nat → Int) : Int := (List.range side).foldl (fun s i => s + v i) 0
  let above := sum fun i => p.around (x + i + 1) y
  let left := sum fun j => p.around x (y + j + 1)
  let n : Int := (side : Nat)
  if x = 0 then if y = 0 then 128 else (above + n / 2) / n
  else if y = 0 then (left + n / 2) / n
  else (above + left + n) / (2 * n)

def prediction (p : Plane) (m : Mode) (x y side : Nat) : Nat → Nat → Int :=
  match m with
  | .mean =>
    let v := p.mean x y side
    fun _ _ => v
  | .plane => fun i j =>
    max 0 (min 255 (p.around x (y + j + 1) + p.around (x + i + 1) y - p.around x y))
  | .down => fun i _ => p.around (x + i + 1) y
  | .right => fun _ j => p.around x (y + j + 1)

/-- Put a square of blocks at a place: the prediction of the whole, and differences to it. -/
def putWhole (p : Plane) (m : Mode) (x y side : Nat) (differences : Nat → Block) : Plane :=
  let guess := p.prediction m x y side
  let guess := (Array.range (side * side)).map fun i => guess (i % side) (i / side)
  p.putBlock x y side fun i j =>
    (guess[j * side + i]?).getD 0 +
      (differences (j / 4 * (side / 4) + i / 4)).entry (j % 4 * 4 + i % 4)

end Plane

/-- The samples around a small block in one row: those on the left from the bottom to the top, the
corner, and eight above. -/
abbrev Rim := Array Int

namespace Rim

/-- The sample at a place; beyond the ends they repeat. -/
def get (r : Rim) (i : Int) : Int := (r[(max 0 (min i 12)).toNat]?).getD 0

/-- The rounded mean of a sample and the next one. -/
def pair (r : Rim) (i : Int) : Int := (r.get i + r.get (i + 1) + 1) / 2

def smooth (r : Rim) (i : Int) : Int := (r.get (i - 1) + 2 * r.get i + r.get (i + 1) + 2) / 4

def prediction (r : Rim) (m : SmallMode) (x y : Nat) : Int :=
  let i : Int := (x : Nat)
  let j : Int := (y : Nat)
  match m with
  | .mean => ([0, 1, 2, 3].foldl (fun s k => s + r.get k + r.get (5 + k)) 4) / 8
  | .plane => max 0 (min 255 (r.get (3 - j) + r.get (5 + i) - r.get 4))
  | .down => r.smooth (5 + i)
  | .right => r.smooth (3 - j)
  | .downRight => r.smooth (4 + i - j)
  | .downLeft => r.smooth (6 + i + j)
  | .downRightSteep =>
    if y % 2 = 0 then if y = 2 then if x = 0 then r.smooth 3 else r.pair (3 + i) else r.pair (4 + i)
    else if y = 3 then if x = 0 then r.smooth 2 else r.smooth (3 + i)
    else r.smooth (4 + i)
  | .downLeftSteep =>
    if y % 2 = 0 then if y = 2 then if x = 3 then r.smooth 10 else r.pair (6 + i) else r.pair (5 + i)
    else if y = 3 then if x = 3 then r.smooth 11 else r.smooth (7 + i)
    else r.smooth (6 + i)
  | .downRightFlat =>
    if x % 2 = 0 then if x = 2 then if y = 0 then r.smooth 5 else r.pair (4 - j) else r.pair (3 - j)
    else if x = 3 then if y = 0 then r.smooth 6 else r.smooth (5 - j)
    else r.smooth (4 - j)
  | .upRight =>
    let t := x + 2 * y
    let k : Int := (t / 2 : Nat)
    if t % 2 = 0 then r.pair (2 - k) else r.smooth (2 - k)

end Rim

namespace Plane

/-- The samples around a small block. `right` are the four samples above that lie to the right of
it. -/
def rim (p : Plane) (x y : Nat) (right : Nat → Int) : Rim :=
  (Array.range 13).map fun k =>
    if k < 4 then p.around x (y + 4 - k)
    else if k < 9 then p.around (x + k - 4) y
    else right (k - 9)

/-- Put a square of small blocks at a place, each predicted from those before it. To the right of the
square, all its rows of blocks count the samples above the square. -/
def putBlocks (p : Plane) (modes : Array SmallMode) (x y : Nat) (differences : Nat → Block) : Plane :=
  let outer (k : Nat) : Int :=
    if y = 0 then 127 else if p.width ≤ x + 16 then p.sample (x + 15) (y - 1)
    else p.sample (x + 16 + k) (y - 1)
  let beyond := (Array.range 4).map outer
  (List.range 16).foldl (fun p n =>
    let bx := x + n % 4 * 4
    let bY := y + n / 4 * 4
    let right (k : Nat) : Int :=
      if n % 4 = 3 then (beyond[k]?).getD 0 else p.around (bx + 5 + k) bY
    let rim := p.rim bx bY right
    let mode := (modes[n]?).getD .mean
    let d := differences n
    p.putBlock bx bY 4 fun i j => rim.prediction mode i j + d.entry (4 * j + i)) p

end Plane

end Iconsmith.WebP.Lossy
