import Iconsmith.Effect.ColorSpace

/-!
Blurring. Small blurs follow the heat equation: four times a recursive filter runs back and forth along
each row and each column. Large ones are five averages over boxes, whose sides are chosen so that the
variances add up.
-/

namespace Iconsmith.Effect

open Raster

namespace Blur

/-- A line of places in an array: the first one, the distance to the next, and their number. -/
structure Track where
  start : Nat
  stride : Nat
  count : Nat

namespace Track

@[inline]
def index (t : Track) (i : Nat) : Nat := t.start + i * t.stride

end Track

def rows (width height : Nat) : List Track := (List.range height).map fun y => ⟨y * width, 1, width⟩

def columns (width height : Nat) : List Track := (List.range width).map fun x => ⟨x, width, height⟩

/-! ### Small blurs -/

/-- Add to each value a share of the one before it, from the second one on. -/
def sweepUp (k : Float) (t : Track) : Nat → Nat → FloatArray → FloatArray
  | 0, _, a => a
  | steps + 1, i, a =>
    sweepUp k t steps (i + 1)
      (a.set! (t.index i) (a.get! (t.index i) + k * a.get! (t.index (i - 1))))

/-- Add to each value a share of the one behind it, `i` values back to the first. -/
def sweepDown (k : Float) (t : Track) : Nat → FloatArray → FloatArray
  | 0, a => a
  | i + 1, a =>
    sweepDown k t i (a.set! (t.index i) (a.get! (t.index i) + k * a.get! (t.index (i + 1))))

/-- Run back and forth along a line. -/
def sweep (k : Float) (t : Track) (a : FloatArray) : FloatArray :=
  sweepDown k t (t.count - 1) (sweepUp k t (t.count - 1) 1 a)

def runs : Nat := 4

/-- The heat of a step, and the share that neighbours get, for a deviation. -/
def coefficients (sigma : Float) : Float × Float :=
  let heat := sigma * sigma / (2 * 4)
  (heat, (1 + 2 * heat - (1 + 4 * heat).sqrt) / (2 * heat))

/-- Filter along some lines. Without a deviation nothing changes. -/
def along (sigma : Float) (tracks : List Track) (a : FloatArray) : FloatArray × Float × Float :=
  if sigma > 0 then
    let (heat, k) := coefficients sigma
    (tracks.foldl (fun a t => (List.range runs).foldl (fun a _ => sweep k t a) a) a, heat, k)
  else (a, 1, 1)

def heat (width height : Nat) (dx dy : Float) (a : FloatArray) : FloatArray :=
  let (a, heatX, kx) := along dx (rows width height) a
  let (a, heatY, ky) := along dy (columns width height) a
  let base := (kx * ky).sqrt / (heatX * heatY).sqrt
  let square := base * base
  let fourth := square * square
  let scale := fourth * fourth
  (List.range a.size).foldl (fun a i => a.set! i (a.get! i * scale)) a

def smallPart (dx dy : Float) (l : Layer) (part : Nat) : FloatArray :=
  let values := (List.range (l.width * l.height)).foldl
    (fun a i => a.push ((l.byte (4 * i + part)).toFloat / 255)) FloatArray.empty
  heat l.width l.height dx dy values

def small (dx dy : Float) (l : Layer) : Layer :=
  let r := smallPart dx dy l 0
  let g := smallPart dx dy l 1
  let b := smallPart dx dy l 2
  let a := smallPart dx dy l 3
  let byte := fun (values : FloatArray) (i : Nat) => (values.get! i * 255).toUInt8.toUInt32
  l.mapIdx fun i _ => ⟨byte r i, byte g i, byte b i, byte a i⟩

/-! ### Large blurs -/

/-- The sides of the five boxes for a deviation: two odd numbers, the smaller one first. -/
def boxes (sigma : Float32) : List Nat :=
  if sigma > 0 then
    let n : Float32 := 5
    let ideal := (12 * sigma * sigma / n).sqrt + 1
    let low : Int := ideal.floor.toInt32.toInt
    let low := if low % 2 = 0 then low - 1 else low
    let w := Float32.ofInt low
    let few := (12 * sigma * sigma - n * w * w - 4 * n * w - 3 * n) / (-4 * w - 4)
    let few := few.round.toUInt32.toNat
    (List.range 5).map fun i => (if i < few then low else low + 2).toNat
  else List.replicate 5 1

/-- Round to the nearest integer, a half to the even one. -/
@[inline]
def roundEven (x : Float32) : Float32 := x + 12582912 - 12582912

/-- The average over a box around each place of a line. What is outside counts as zero. -/
def average (radius part : Nat) (t : Track) (source target : ByteArray) : ByteArray :=
  let weight : Float32 := 1 / Float32.ofNat (2 * radius + 1)
  let value := fun i : Nat => (source.get! (4 * t.index i + part)).toNat
  let first := (List.range (min radius t.count)).foldl (fun sum i => sum + value i) 0
  ((List.range t.count).foldl (fun (target, sum) i =>
    let sum : Nat := if i + radius < t.count then sum + value (i + radius) else sum
    let mean := (roundEven (Float32.ofNat sum * weight)).toUInt8
    let target := target.set! (4 * t.index i + part) mean
    (target, if radius ≤ i then sum - value (i - radius) else sum)) (target, first)).1

/-- Averages along lines. A box of one place changes nothing. -/
def averages (side : Nat) (tracks : List Track) (source target : ByteArray) : ByteArray :=
  let radius := (side - 1) / 2
  if radius = 0 then source
  else
    tracks.foldl (fun target t =>
      (List.range 4).foldl (fun target part => average radius part t source target) target) target

def large (dx dy : Float32) (l : Layer) : Layer :=
  let bytes := ((boxes dx).zip (boxes dy)).foldl (fun bytes (across, down) =>
    let lower := averages down (columns l.width l.height) bytes bytes
    averages across (rows l.width l.height) lower lower) l.bytes
  { l with bytes }

end Blur

def blur (dx dy : Float32) (l : Layer) : Layer :=
  if dx ≥ 2 || dy ≥ 2 then Blur.large dx dy l else Blur.small dx.toFloat dy.toFloat l

end Iconsmith.Effect
