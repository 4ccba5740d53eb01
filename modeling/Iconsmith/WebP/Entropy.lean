import Iconsmith.Bitmap
import Iconsmith.Deflate.Huffman
import Iconsmith.WebP.Container

/-!
The inner layer of lossless images: pixels written with five prefix codes, as literals, as references
to earlier pixels, or as slots of a cache of recent colours.
-/

namespace Iconsmith.WebP

open Codec

/-- A reading of bits. -/
abbrev Bits (α : Type) := StateT Deflate.Cursor (Except Fault) α

namespace Bits

def corrupt : Fault := malformed "Corrupt bitstream"

def badCode : Fault := malformed "Invalid Huffman code"

def take (count : Nat) : Bits Nat := do
  match (← get).take count with
  | .ok (n, cur) =>
    set cur
    return n
  | .error _ => throw corrupt

def flag : Bits Bool := do return (← take 1) = 1

end Bits

/-- A prefix code, or a single symbol that takes no bits. -/
inductive Coding where
  | single (symbol : Nat)
  | code (c : Deflate.Code)

namespace Coding

/-- The code with the given word lengths. One with a single word needs no bits. -/
def ofLengths (lengths : Array Nat) : Except Fault Coding :=
  match lengths.toList.zipIdx.filter fun (l, _) => l != 0 with
  | [] => .error Bits.badCode
  | [(_, s)] => .ok (.single s)
  | _ => if Deflate.Code.isComplete lengths then .ok (.code (.ofLengths lengths)) else .error Bits.badCode

def read (c : Coding) : Bits Nat := do
  match c with
  | single s => return s
  | code c =>
    match c.read .badHeader (← get) with
    | .ok (s, cur) =>
      set cur
      return s
    | .error .badHeader => throw Bits.badCode
    | .error _ => throw Bits.corrupt

def lengthOrder : List Nat := [17, 18, 0, 1, 2, 3, 4, 5, 16, 6, 7, 8, 9, 10, 11, 12, 13, 14, 15]

/-- Read lengths of three bits for the given symbols. -/
def readPlain : List Nat → Array Nat → Bits (Array Nat)
  | [], lengths => pure lengths
  | s :: rest, lengths => do readPlain rest (lengths.setIfInBounds s (← Bits.take 3))

/-- Read run-length coded lengths: at most `steps` symbols, until `total` lengths are there. `last`
is the last length that was not zero. -/
def readLengths (c : Coding) (total : Nat) : Nat → Nat → Array Nat → Bits (Array Nat)
  | 0, _, lengths => pure lengths
  | steps + 1, last, lengths => do
    if total ≤ lengths.size then return lengths
    let s ← c.read
    if s < 16 then readLengths c total steps (if s = 0 then last else s) (lengths.push s)
    else
      let (value, count) ←
        if s = 16 then do pure (last, 3 + (← Bits.take 2))
        else if s = 17 then do pure (0, 3 + (← Bits.take 3))
        else do pure (0, 11 + (← Bits.take 7))
      if total < lengths.size + count then throw Bits.corrupt
      readLengths c total steps last (lengths ++ Array.replicate count value)

def readCode (size : Nat) : Bits Coding := do
  if ← Bits.flag then
    let two ← Bits.flag
    let wide ← Bits.flag
    let first ← Bits.take (if wide then 8 else 1)
    if size ≤ first then throw Bits.corrupt
    if !two then return .single first
    let second ← Bits.take 8
    if size ≤ second then throw Bits.corrupt
    ofLengths (((Array.replicate size 0).setIfInBounds first 1).setIfInBounds second 1)
  else
    let count := 4 + (← Bits.take 4)
    let lengths ← readPlain (lengthOrder.take count) (Array.replicate 19 0)
    let lengthCode ← ofLengths lengths
    let most ←
      if ← Bits.flag then do
        let bits := 2 + 2 * (← Bits.take 3)
        pure (2 + (← Bits.take bits))
      else pure size
    if size < most then throw Bits.corrupt
    let lengths ← readLengths lengthCode size most 8 #[]
    ofLengths (lengths ++ Array.replicate (size - lengths.size) 0)

end Coding

/-- The five codes of a group: green with lengths and cache slots, red, blue, alpha, distances. -/
structure Group where
  green : Coding
  red : Coding
  blue : Coding
  alpha : Coding
  distance : Coding

def Group.read (cacheSize : Nat) : Bits Group := do
  let green ← Coding.readCode (280 + cacheSize)
  let red ← Coding.readCode 256
  let blue ← Coding.readCode 256
  let alpha ← Coding.readCode 256
  let distance ← Coding.readCode 40
  return ⟨green, red, blue, alpha, distance⟩

def readGroups (cacheSize : Nat) : Nat → Array Group → Bits (Array Group)
  | 0, acc => pure acc
  | count + 1, acc => do readGroups cacheSize count (acc.push (← Group.read cacheSize))

/-- A number that starts with a symbol and goes on with bits. -/
def readExtended (symbol : Nat) : Bits Nat := do
  if symbol < 4 then return symbol + 1
  let extra := (symbol - 2) / 2
  return (2 + symbol % 2) <<< extra + (← Bits.take extra) + 1

/-- The places of near pixels, columns to the left and rows up, by their distance symbol. -/
def nearPlaces : Array (Int × Nat) := #[
  (0, 1), (1, 0), (1, 1), (-1, 1), (0, 2), (2, 0), (1, 2), (-1, 2), (2, 1), (-2, 1), (2, 2),
  (-2, 2), (0, 3), (3, 0), (1, 3), (-1, 3), (3, 1), (-3, 1), (2, 3), (-2, 3), (3, 2), (-3, 2),
  (0, 4), (4, 0), (1, 4), (-1, 4), (4, 1), (-4, 1), (3, 3), (-3, 3), (2, 4), (-2, 4), (4, 2),
  (-4, 2), (0, 5), (3, 4), (-3, 4), (4, 3), (-4, 3), (5, 0), (1, 5), (-1, 5), (5, 1), (-5, 1),
  (2, 5), (-2, 5), (5, 2), (-5, 2), (4, 4), (-4, 4), (3, 5), (-3, 5), (5, 3), (-5, 3), (0, 6),
  (6, 0), (1, 6), (-1, 6), (6, 1), (-6, 1), (2, 6), (-2, 6), (6, 2), (-6, 2), (4, 5), (-4, 5),
  (5, 4), (-5, 4), (3, 6), (-3, 6), (6, 3), (-6, 3), (0, 7), (7, 0), (1, 7), (-1, 7), (5, 5),
  (-5, 5), (7, 1), (-7, 1), (4, 6), (-4, 6), (6, 4), (-6, 4), (2, 7), (-2, 7), (7, 2), (-7, 2),
  (3, 7), (-3, 7), (7, 3), (-7, 3), (5, 6), (-5, 6), (6, 5), (-6, 5), (8, 0), (4, 7), (-4, 7),
  (7, 4), (-7, 4), (8, 1), (8, 2), (6, 6), (-6, 6), (8, 3), (5, 7), (-5, 7), (7, 5), (-7, 5),
  (8, 4), (6, 7), (-6, 7), (7, 6), (-7, 6), (8, 5), (7, 7), (-7, 7), (8, 6), (8, 7)]

/-- The distance in pixels that a number stands for in rows of the given width. -/
def distanceOf (width n : Nat) : Nat :=
  match nearPlaces[n - 1]? with
  | some (dx, dy) => max 1 (dx + (dy * width : Nat)).toNat
  | none => n - 120

structure Layout where
  width : Nat
  /-- Binary logarithm of the size of the cache; zero for no cache. -/
  cacheBits : Nat
  groups : Array Group
  groupAt : Nat → Nat → Nat

def slot (bits : Nat) (p : Pixel) : Nat :=
  let word := p.a.toNat <<< 24 + p.r.toNat <<< 16 + p.g.toNat <<< 8 + p.b.toNat
  (word * 0x1E35A7BD % (1 <<< 32)) >>> (32 - bits)

/-- Pixels so far and the cache of their colours. -/
structure Filling where
  pixels : Array Pixel
  cache : Array Pixel

namespace Filling

def push (f : Filling) (bits : Nat) (p : Pixel) : Filling :=
  ⟨f.pixels.push p, if bits = 0 then f.cache else f.cache.setIfInBounds (slot bits p) p⟩

/-- Repeat pixels from a distance back. -/
def repeatFrom (bits distance : Nat) : Nat → Filling → Filling
  | 0, f => f
  | count + 1, f =>
    repeatFrom bits distance count
      (f.push bits ((f.pixels[f.pixels.size - distance]?).getD .clear))

end Filling

/-- Read pixels until there are `total`. Each step adds one at least. -/
def readPixels (l : Layout) (total : Nat) : Nat → Filling → Bits (Array Pixel)
  | 0, f => pure f.pixels
  | steps + 1, f => do
    let i := f.pixels.size
    if total ≤ i then return f.pixels
    match l.groups[l.groupAt (i % l.width) (i / l.width)]? with
    | none => throw Bits.corrupt
    | some g =>
      let s ← g.green.read
      if s < 256 then
        let red ← g.red.read
        let blue ← g.blue.read
        let alpha ← g.alpha.read
        readPixels l total steps
          (f.push l.cacheBits ⟨red.toUInt8, s.toUInt8, blue.toUInt8, alpha.toUInt8⟩)
      else if s < 280 then
        let length ← readExtended (s - 256)
        let distance := distanceOf l.width (← readExtended (← g.distance.read))
        if i < distance ∨ total < i + length then throw Bits.corrupt
        readPixels l total steps (f.repeatFrom l.cacheBits distance length)
      else
        readPixels l total steps (f.push l.cacheBits ((f.cache[s - 280]?).getD .clear))

def readCacheBits : Bits Nat := do
  if !(← Bits.flag) then return 0
  let bits ← Bits.take 4
  if bits < 1 ∨ 11 < bits then
    throw (malformed ("Invalid color cache bits: " ++ Decimal.text bits))
  return bits

def cacheSize (bits : Nat) : Nat := if bits = 0 then 0 else 1 <<< bits

/-- Read an image that other images depend on. -/
def readInner (width height : Nat) : Bits (Array Pixel) := do
  let bits ← readCacheBits
  let group ← Group.read (cacheSize bits)
  let l : Layout := ⟨width, bits, #[group], fun _ _ => 0⟩
  let total := width * height
  readPixels l total total ⟨#[], Array.replicate (cacheSize bits) .clear⟩

/-- Side of an image whose pixels stand for squares of the given binary logarithm. -/
def coarse (side bits : Nat) : Nat := (side + (1 <<< bits) - 1) >>> bits

/-- Read the main image, whose parts may have groups of their own. -/
def readMain (width height : Nat) : Bits (Array Pixel) := do
  let bits ← readCacheBits
  let total := width * height
  let start : Filling := ⟨#[], Array.replicate (cacheSize bits) .clear⟩
  if ← Bits.flag then
    let squares := 2 + (← Bits.take 3)
    let columns := coarse width squares
    let map ← readInner columns (coarse height squares)
    let groupOf (p : Pixel) : Nat := p.r.toNat * 256 + p.g.toNat
    let count := map.foldl (fun n p => max n (groupOf p + 1)) 1
    let groups ← readGroups (cacheSize bits) count #[]
    let groupAt (x y : Nat) : Nat :=
      groupOf ((map[y >>> squares * columns + x >>> squares]?).getD .clear)
    readPixels ⟨width, bits, groups, groupAt⟩ total total start
  else
    let group ← Group.read (cacheSize bits)
    readPixels ⟨width, bits, #[group], fun _ _ => 0⟩ total total start

end Iconsmith.WebP
