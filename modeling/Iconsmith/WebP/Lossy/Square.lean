import Iconsmith.WebP.Lossy.Header

/-!
Squares of 16 by 16 pixels: how each is predicted from its surroundings, and the coefficients of what
is left between the prediction and the image.
-/

namespace Iconsmith.WebP.Lossy

open Codec

/-- How a small block of brightness is predicted. The numbers of the modes are their places in this
list. -/
inductive SmallMode where
  /-- The mean of the samples above and on the left. -/
  | mean
  /-- Left plus above minus corner. -/
  | plane
  /-- The samples above, smoothed. -/
  | down
  /-- The samples on the left, smoothed. -/
  | right
  | downRight
  | downRightSteep
  | downLeft
  | downLeftSteep
  | downRightFlat
  | upRight
deriving DecidableEq, Repr

/-- How a whole square is predicted. -/
inductive Mode where
  | mean
  | plane
  | down
  | right
deriving DecidableEq, Repr

/-- How brightness is predicted: as a whole, or in blocks of four by four, row by row. -/
inductive Luma where
  | whole (mode : Mode)
  | blocks (modes : Array SmallMode)

structure Square where
  kind : Nat
  /-- There are no coefficients. -/
  isEmpty : Bool
  luma : Luma
  chroma : Mode

namespace SmallMode

def index : SmallMode → Nat
  | mean => 0
  | plane => 1
  | down => 2
  | right => 3
  | downRight => 4
  | downRightSteep => 5
  | downLeft => 6
  | downLeftSteep => 7
  | downRightFlat => 8
  | upRight => 9

/-- Read the mode of a block between two others. -/
def read (above left : SmallMode) : Decisions SmallMode := do
  let ask (k : Nat) : Decisions Bool :=
    Decisions.ask ((modeChances[(above.index * 10 + left.index) * 9 + k]?).getD 0)
  if !(← ask 0) then return mean
  if !(← ask 1) then return plane
  if !(← ask 2) then return down
  if !(← ask 3) then
    if !(← ask 4) then return right
    return if ← ask 5 then downRightSteep else downRight
  if !(← ask 6) then return downLeft
  if !(← ask 7) then return downLeftSteep
  return if ← ask 8 then upRight else downRightFlat

/-- The mode of blocks that stands for a mode of squares. -/
def ofMode : Mode → SmallMode
  | .mean => mean
  | .plane => plane
  | .down => down
  | .right => right

end SmallMode

namespace Luma

def modeAt (l : Luma) (i : Nat) : SmallMode :=
  match l with
  | whole m => .ofMode m
  | blocks modes => (modes[i]?).getD .mean

/-- Read the modes of blocks from number `16 - count` on. The blocks above and on the left of the
square have the modes `above` and `left`. -/
def readBlocks (above left : Nat → SmallMode) : Nat → Array SmallMode → Decisions (Array SmallMode)
  | 0, modes => pure modes
  | count + 1, modes => do
    let i := modes.size
    let up := if i < 4 then above i else (modes[i - 4]?).getD .mean
    let before := if i % 4 = 0 then left (i / 4) else (modes[i - 1]?).getD .mean
    readBlocks above left count (modes.push (← SmallMode.read up before))

def read (above left : Nat → SmallMode) : Decisions Luma := do
  if !(← Decisions.ask 145) then return blocks (← readBlocks above left 16 #[])
  if !(← Decisions.ask 156) then
    return whole (if ← Decisions.ask 163 then .down else .mean)
  return whole (if ← Decisions.ask 128 then .plane else .right)

end Luma

def Mode.read : Decisions Mode := do
  if !(← Decisions.ask 142) then return .mean
  if !(← Decisions.ask 114) then return .down
  return if ← Decisions.ask 183 then .plane else .right

/-- Read the squares of an image, of which a row has `across`, until there are `count` more. -/
def readSquares (h : Header) (across : Nat) : Nat → Array Square → Decisions (Array Square)
  | 0, all => pure all
  | count + 1, all => do
    let i := all.size
    let kind ← match h.kindChances with
      | none => pure 0
      | some (a, b, c) => do
        if ← Decisions.ask a then pure (if ← Decisions.ask c then 3 else 2)
        else pure (if ← Decisions.ask b then 1 else 0)
    let isEmpty ← match h.fullChance with
      | none => pure false
      | some chance => Decisions.ask chance
    let modeOf (isThere : Bool) (j k : Nat) : SmallMode :=
      if isThere then ((all[j]?).map fun s => s.luma.modeAt k).getD .mean else .mean
    let luma ← Luma.read (fun k => modeOf (across ≤ i) (i - across) (12 + k))
      (fun k => modeOf (i % across ≠ 0) (i - 1) (4 * k + 3))
    let chroma ← Mode.read
    readSquares h across count (all.push ⟨kind, isEmpty, luma, chroma⟩)

end Iconsmith.WebP.Lossy
