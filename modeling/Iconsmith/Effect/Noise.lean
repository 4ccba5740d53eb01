import Iconsmith.Effect.ColorSpace

/-!
Noise that is smooth at small scales: at the corners of a lattice stand random gradients, and between
them the values are interpolated. Several octaves are added up. The random numbers are those of a
multiplicative generator, so that equal seeds give equal noise.
-/

namespace Iconsmith.Effect

open Raster

/-- Random numbers between one and `2 ^ 31 - 2`. -/
def nextRandom (seed : Int) : Int :=
  let n := 16807 * (seed % 127773) - 2836 * (seed / 127773)
  if n ≤ 0 then n + 2147483647 else n

/-- A seed that the generator admits. -/
def firstSeed (seed : Int) : Int :=
  let s := if seed ≤ 0 then -(seed.tmod 2147483646) + 1 else seed
  min s 2147483646

/-- The corners of the lattice: a shuffled table of 256 numbers and, for each of the four parts, a unit
vector for each number. -/
structure Lattice where
  selector : Array Nat
  gradients : Array (Float × Float)

namespace Lattice

def coordinate (seed : Int) : Float × Int :=
  let seed := nextRandom seed
  (Float.ofInt (seed % 512 - 256) / 256, seed)

def vectors : Nat → Int → Array (Float × Float) → Array (Float × Float) × Int
  | 0, seed, all => (all, seed)
  | n + 1, seed, all =>
    let (x, seed) := coordinate seed
    let (y, seed) := coordinate seed
    let length := (x * x + y * y).sqrt
    vectors n seed (all.push (x / length, y / length))

/-- Exchange each number, from the last one down, with a random one. -/
def shuffle : Nat → Int → Array Nat → Array Nat
  | 0, _, table => table
  | i + 1, seed, table =>
    let seed := nextRandom seed
    let j := (seed % 256).toNat
    shuffle i seed ((table.set! (i + 1) (table.getD j 0)).set! j (table.getD (i + 1) 0))

def ofSeed (seed : Int) : Lattice :=
  let (gradients, seed) := vectors 1024 (firstSeed seed) #[]
  ⟨shuffle 255 seed (Array.range 256), gradients⟩

/-- The number at a place; the table is continued behind its end. -/
def select (l : Lattice) (i : Nat) : Nat := l.selector.getD (i % 256) 0

def gradient (l : Lattice) (part i : Nat) : Float × Float := l.gradients.getD (part * 256 + i % 256) (0, 0)

end Lattice

/-- Where a lattice repeats: its sides, and the places from which on it does. -/
structure Seam where
  width : Int
  wrapX : Int
  height : Int
  wrapY : Int

namespace Seam

def next (s : Seam) : Seam :=
  ⟨s.width * 2, 2 * s.wrapX - 4096, s.height * 2, 2 * s.wrapY - 4096⟩

end Seam

structure Noise where
  frequencyX : Float
  frequencyY : Float
  octaves : Nat
  seed : Int
  /-- The border of the layer fits itself. -/
  stitched : Bool
  /-- Values below zero count; else their magnitude does. -/
  signed : Bool
deriving Repr

namespace Noise

def maxOctaves : Nat := 64

@[inline]
def curve (t : Float) : Float := t * t * (3 - 2 * t)

@[inline]
def between (t a b : Float) : Float := a + t * (b - a)

def octave (l : Lattice) (part : Nat) (x y : Float) (seam : Option Seam) : Float :=
  let x := x + 4096
  let y := y + 4096
  let bx := x.toInt64.toInt
  let by' := y.toInt64.toInt
  let fx := x - Float.ofInt bx
  let fy := y - Float.ofInt by'
  let fit := fun (n wrap size : Int) => if n ≥ wrap then n - size else n
  let (x₀, x₁, y₀, y₁) := match seam with
    | some s => (fit bx s.wrapX s.width, fit (bx + 1) s.wrapX s.width, fit by' s.wrapY s.height,
        fit (by' + 1) s.wrapY s.height)
    | none => (bx, bx + 1, by', by' + 1)
  let low := fun n : Int => (n.emod 256).toNat
  let i := l.select (low x₀)
  let j := l.select (low x₁)
  let dot := fun (k : Nat) (u v : Float) =>
    let (gx, gy) := l.gradient part k
    u * gx + v * gy
  let sx := curve fx
  let top := between sx (dot (l.select (i + low y₀)) fx fy) (dot (l.select (j + low y₀)) (fx - 1) fy)
  let bottom := between sx (dot (l.select (i + low y₁)) fx (fy - 1))
    (dot (l.select (j + low y₁)) (fx - 1) (fy - 1))
  between (curve fy) top bottom

def octaves' (n : Noise) (l : Lattice) (part : Nat) :
    Nat → Float → Float → Float → Option Seam → Float → Float
  | 0, _, _, _, _, sum => sum
  | count + 1, x, y, ratio, seam, sum =>
    let v := octave l part x y seam
    let v := if n.signed then v else v.abs
    octaves' n l part count (x * 2) (y * 2) (ratio * 2) (seam.map Seam.next) (sum + v / ratio)

/-- A frequency with which a side fits whole waves. -/
def fitted (frequency side : Float) : Float :=
  if frequency == 0 then 0
  else
    let low := (side * frequency).floor / side
    let high := (side * frequency).ceil / side
    if frequency / low < high / frequency then low else high

/-- The value of a part at a point of a layer. `x` and `y` are its coordinates on the layer, `px` and
`py` those of the drawing. -/
def value (n : Noise) (l : Lattice) (part : Nat) (px py x y width height : Float) : Float :=
  let fx := if n.stitched then fitted n.frequencyX width else n.frequencyX
  let fy := if n.stitched then fitted n.frequencyY height else n.frequencyY
  let seam := if n.stitched then
      let w := (width * fx + 0.5).toInt64.toInt
      let h := (height * fy + 0.5).toInt64.toInt
      some ⟨w, (x * fx + 4096 + Float.ofInt w).toInt64.toInt, h,
        (y * fy + 4096 + Float.ofInt h).toInt64.toInt⟩
    else none
  octaves' n l part (min n.octaves maxOctaves) (px * fx) (py * fy) 1 seam 0

/-- A value as a part of a colour, a half rounded up. -/
def toPart (n : Noise) (v : Float) : UInt32 :=
  let v := if n.signed then (v * 255 + 255) / 2 else v * 255
  (clamp 0 v.toFloat32 255 + 0.5).toUInt8.toUInt32

/-- A layer of noise. Its corner stands at an offset, and a unit of the drawing is `sx` and `sy` pixels
long. -/
def layer (n : Noise) (width height : Nat) (offsetX offsetY sx sy : Float) : Layer :=
  let l := Lattice.ofSeed n.seed
  .ofFn width height fun x y =>
    let fx := Float.ofNat x
    let fy := Float.ofNat y
    let part := fun k => n.toPart (n.value l k ((fx + offsetX) / sx) ((fy + offsetY) / sy) fx fy
      (Float.ofNat width) (Float.ofNat height))
    multiplied ⟨part 0, part 1, part 2, part 3⟩

end Noise
end Iconsmith.Effect
