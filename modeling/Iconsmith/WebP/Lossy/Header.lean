import Iconsmith.WebP.Lossy.Decisions
import Iconsmith.WebP.Lossy.Tables

/-!
The first part of a lossy image: its sides, the kinds of squares that its squares of 16 by 16 pixels
belong to, how strongly edges between blocks are smoothed, the factors of coefficients, and how likely
each decision about them is.
-/

namespace Iconsmith.WebP.Lossy

open Codec

/-- Factors of the first and of all other coefficients of a kind of blocks. -/
structure Factors where
  first : Int
  others : Int

/-- The factors of blocks of brightness, of the block that holds the first coefficients of those, and
of blocks of colour differences. -/
structure Quantizer where
  luma : Factors
  sums : Factors
  chroma : Factors

/-- What squares of a kind have in common. -/
structure Kind where
  quantizer : Quantizer
  /-- How strongly edges are smoothed: up to 63. -/
  smoothing : Int

structure Smoothing where
  /-- Only brightness is smoothed, and only two samples on either side count. -/
  isSimple : Bool
  level : Nat
  sharpness : Nat
  /-- What is added to the level for each square, and for those with small blocks on top of it. -/
  bonus : Int × Int

/-- The first part of an image, up to the modes of its squares. -/
structure Header where
  width : Nat
  height : Nat
  kinds : Array Kind
  /-- The chances of the decisions by which squares say what kind they are of. -/
  kindChances : Option (Nat × Nat × Nat)
  smoothing : Smoothing
  chances : Array Nat
  /-- The chance that a square has coefficients, where squares may have none. -/
  fullChance : Option Nat
  /-- Binary logarithm of the number of parts with coefficients. -/
  parts : Nat

/-- What kinds of squares say about themselves: whether their numbers replace those of the image, an
index of factors, and a level of smoothing. -/
structure KindUpdate where
  replaces : Bool
  indices : List Int
  levels : List Int

def readEach {α β : Type} (read : α → Decisions β) : List α → Decisions (List β)
  | [] => pure []
  | a :: rest => do return (← read a) :: (← readEach read rest)

/-- Read what kinds of squares say about themselves. -/
def readKinds : Decisions (KindUpdate × Option (Nat × Nat × Nat)) := do
  let isMapped ← Decisions.flag
  let isUpdated ← Decisions.flag
  let update ←
    if isUpdated then do
      let replaces ← Decisions.flag
      let indices ← readEach (fun _ => Decisions.signed? 7) (List.range 4)
      let levels ← readEach (fun _ => Decisions.signed? 6) (List.range 4)
      pure ⟨replaces, indices, levels⟩
    else pure ⟨true, [0, 0, 0, 0], [0, 0, 0, 0]⟩
  if !isMapped then return (update, none)
  let chance : Decisions Nat := do if ← Decisions.flag then Decisions.literal 8 else pure 255
  let a ← chance
  let b ← chance
  let c ← chance
  return (update, some (a, b, c))

def readBonus : Decisions (Int × Int) := do
  if !(← Decisions.flag) then return (0, 0)
  if !(← Decisions.flag) then return (0, 0)
  let all ← readEach (fun _ => Decisions.signed? 6) (List.range 8)
  return ((all[0]?).getD 0, (all[4]?).getD 0)

/-- The factor for an index, which is brought into range. -/
def factor (table : Array Nat) (index : Int) : Int :=
  ((table[(max 0 (min 127 index)).toNat]?).getD 0 : Nat)

def readQuantizer : Decisions (Int × (Int → Quantizer)) := do
  let base ← Decisions.literal 7
  let lumaFirst ← Decisions.signed? 4
  let sumsFirst ← Decisions.signed? 4
  let sums ← Decisions.signed? 4
  let chromaFirst ← Decisions.signed? 4
  let chroma ← Decisions.signed? 4
  return (base, fun i =>
    { luma := ⟨factor firstFactors (i + lumaFirst), factor otherFactors i⟩
      sums := ⟨2 * factor firstFactors (i + sumsFirst),
        max 8 (factor otherFactors (i + sums) * 155 / 100)⟩
      chroma := ⟨min 132 (factor firstFactors (i + chromaFirst)),
        factor otherFactors (i + chroma)⟩ })

/-- Read the chances of decisions about coefficients, from place `i` on. `changes` are the chances at
later places that a chance stays as it is. -/
def readChances : List Nat → Nat → List (Nat × Nat) → Array Nat → Decisions (Array Nat)
  | [], _, _, chances => pure chances
  | _ :: rest, i, changes, chances => do
    let (stay, changes) := match changes with
      | (place, c) :: more => if place = i then (c, more) else (255, changes)
      | [] => (255, [])
    if ← Decisions.ask stay then
      readChances rest (i + 1) changes (chances.setIfInBounds i (← Decisions.literal 8))
    else readChances rest (i + 1) changes chances

def readHeader (width height : Nat) : Decisions Header := do
  let space ← Decisions.literal 1
  let _ ← Decisions.flag
  if space ≠ 0 then throw (malformed ("Invalid VP8 color space: " ++ Decimal.text space))
  let update ← if ← Decisions.flag then some <$> readKinds else pure none
  let isSimple ← Decisions.flag
  let level ← Decisions.literal 6
  let sharpness ← Decisions.literal 3
  let bonus ← readBonus
  let parts ← Decisions.literal 2
  let (base, quantizer) ← readQuantizer
  let _ ← Decisions.flag
  let chances ← readChances coefficientChances.toList 0 changeChances coefficientChances
  let fullChance ← if ← Decisions.flag then some <$> Decisions.literal 8 else pure none
  let kinds : List Kind := match update with
    | none => [⟨quantizer base, level⟩]
    | some (u, _) =>
      (u.indices.zip u.levels).map fun (i, l) =>
        ⟨quantizer (if u.replaces then i else base + i),
          max 0 (min 63 (if u.replaces then l else level + l))⟩
  return {
    width, height, parts, chances, fullChance
    kinds := kinds.toArray
    kindChances := update.bind Prod.snd
    smoothing := ⟨isSimple, level, sharpness, bonus⟩ }

end Iconsmith.WebP.Lossy
