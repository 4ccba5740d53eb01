import Iconsmith.WebP.Entropy

/-!
The outer layer of lossless images: transforms that were applied to the pixels before they were
written, and that are taken back in reverse order.
-/

namespace Iconsmith.WebP

open Codec

/-- A transform. The maps of the first two have a pixel for each square of the image. -/
inductive Transform where
  /-- Pixels are differences to a prediction from their neighbours. -/
  | predict (bits : Nat) (map : Array Pixel)
  /-- Red and blue are differences to what green, and red, make likely. -/
  | decorrelate (bits : Nat) (map : Array Pixel)
  /-- Red and blue are differences to green. -/
  | subtractGreen
  /-- Green holds indices into a palette, perhaps several of them. -/
  | indexed (palette : Array Pixel)

namespace Pixels

/-- Sum of two pixels modulo 256. -/
def add (p q : Pixel) : Pixel := ⟨p.r + q.r, p.g + q.g, p.b + q.b, p.a + q.a⟩

def zip (f : Nat → Nat → Nat) (p q : Pixel) : Pixel :=
  let s (x y : UInt8) : UInt8 := (f x.toNat y.toNat).toUInt8
  ⟨s p.r q.r, s p.g q.g, s p.b q.b, s p.a q.a⟩

def zip3 (f : Nat → Nat → Nat → Nat) (p q t : Pixel) : Pixel :=
  let s (x y z : UInt8) : UInt8 := (f x.toNat y.toNat z.toNat).toUInt8
  ⟨s p.r q.r t.r, s p.g q.g t.g, s p.b q.b t.b, s p.a q.a t.a⟩

/-- Mean of two pixels, rounded down. -/
def mean (p q : Pixel) : Pixel := zip (fun x y => (x + y) / 2) p q

def distance (p q : Pixel) : Nat :=
  let d (x y : UInt8) : Nat := ((x.toNat : Int) - y.toNat).natAbs
  d p.r q.r + d p.g q.g + d p.b q.b + d p.a q.a

/-- Whichever of left and top is nearer to left plus top minus corner. -/
def select (left top corner : Pixel) : Pixel :=
  if distance top corner < distance left corner then left else top

def clamp (n : Int) : Nat := (min n 255).toNat

/-- Left plus top minus corner. -/
def gradient (left top corner : Pixel) : Pixel :=
  zip3 (fun l t c => clamp (l + t - c)) left top corner

/-- A pixel and half of its difference to another. -/
def halfGradient (p q : Pixel) : Pixel :=
  zip (fun x y => clamp (x + ((x : Int) - y).tdiv 2)) p q

end Pixels

open Pixels in
/-- The prediction of a mode from the neighbours on the left, above, and above to the left and to the
right. -/
def prediction (mode : Nat) (left top corner right : Pixel) : Pixel :=
  match mode with
  | 0 => .gray 0
  | 1 => left
  | 2 => top
  | 3 => right
  | 4 => corner
  | 5 => mean (mean left right) top
  | 6 => mean left corner
  | 7 => mean left top
  | 8 => mean corner top
  | 9 => mean top right
  | 10 => mean (mean left corner) (mean top right)
  | 11 => select left top corner
  | 12 => gradient left top corner
  | 13 => halfGradient (mean left top) corner
  | _ => .gray 0

def mapAt (width bits : Nat) (map : Array Pixel) (x y : Nat) : Pixel :=
  (map[y >>> bits * coarse width bits + x >>> bits]?).getD .clear

def addPredictions (width bits : Nat) (map : Array Pixel) (pixels : Array Pixel) : Array Pixel :=
  (List.range pixels.size).foldl (fun pixels i =>
    let x := i % width
    let y := i / width
    let back (n : Nat) : Pixel := (pixels[i - n]?).getD .clear
    let guess :=
      if i = 0 then .gray 0
      else if y = 0 then back 1
      else if x = 0 then back width
      else
        prediction ((mapAt width bits map x y).g.toNat) (back 1) (back width) (back (width + 1))
          (back (width - 1))
    pixels.setIfInBounds i (Pixels.add ((pixels[i]?).getD .clear) guess)) pixels

def signed (v : UInt8) : Int := if v < 128 then v.toNat else (v.toNat : Int) - 256

/-- The share of a sample that a factor makes likely. -/
def share (factor sample : UInt8) : UInt8 :=
  (((signed factor * signed sample).fdiv 32).emod 256).toNat.toUInt8

def addShares (width bits : Nat) (map : Array Pixel) (pixels : Array Pixel) : Array Pixel :=
  pixels.mapIdx fun i p =>
    let m := mapAt width bits map (i % width) (i / width)
    let r := p.r + share m.b p.g
    let b := p.b + share m.g p.g + share m.r r
    ⟨r, p.g, b, p.a⟩

/-- Binary logarithm of the number of indices in a pixel for a palette of the given size. -/
def packing (size : Nat) : Nat :=
  if size ≤ 2 then 3 else if size ≤ 4 then 2 else if size ≤ 16 then 1 else 0

def lookUp (width height : Nat) (palette : Array Pixel) (pixels : Array Pixel) : Array Pixel :=
  let bits := packing palette.size
  let columns := coarse width bits
  let depth := 8 >>> bits
  Array.ofFn (n := width * height) fun i =>
    let x := i.val % width
    let p := (pixels[i.val / width * columns + x >>> bits]?).getD .clear
    let index := p.g.toNat >>> (depth * (x % (1 <<< bits))) % (1 <<< depth)
    (palette[index]?).getD .clear

/-- Take back a transform of an image of the given sides; `current` is the width of its rows. The
width afterwards is given with the pixels. -/
def Transform.undo (t : Transform) (width height current : Nat) (pixels : Array Pixel) :
    Nat × Array Pixel :=
  match t with
  | .predict bits map => (current, addPredictions current bits map pixels)
  | .decorrelate bits map => (current, addShares current bits map pixels)
  | .subtractGreen => (current, pixels.map fun p => ⟨p.r + p.g, p.g, p.b + p.g, p.a⟩)
  | .indexed palette => (width, lookUp width height palette pixels)

/-- Read transforms, each kind of which may occur once. `kinds` are those left. The width of the rows
that follow is given with them. -/
def readTransforms (height : Nat) : Nat → List Nat → Nat → List Transform →
    Bits (Nat × List Transform)
  | 0, _, width, acc => pure (width, acc)
  | steps + 1, kinds, width, acc => do
    if !(← Bits.flag) then return (width, acc)
    let kind ← Bits.take 2
    if kind ∉ kinds then throw (malformed "Invalid transform")
    let kinds := kinds.erase kind
    if kind = 2 then readTransforms height steps kinds width (.subtractGreen :: acc)
    else if kind = 3 then
      let size := 1 + (← Bits.take 8)
      let differences ← readInner size 1
      let palette := (differences.foldl (fun (acc, last) p =>
        let q := Pixels.add last p
        (acc.push q, q)) ((#[] : Array Pixel), Pixel.clear)).1
      readTransforms height steps kinds (coarse width (packing size)) (.indexed palette :: acc)
    else
      let bits := 2 + (← Bits.take 3)
      let map ← readInner (coarse width bits) (coarse height bits)
      let t := if kind = 0 then Transform.predict bits map else .decorrelate bits map
      readTransforms height steps kinds width (t :: acc)

def readPixelsOf (size : Size) : Bits (Array Pixel) := do
  let width := size.width.toNat
  let height := size.height.toNat
  let (current, transforms) ← readTransforms height 5 [0, 1, 2, 3] width []
  let pixels ← readMain current height
  let (_, pixels) := transforms.foldl (fun (current, pixels) t => t.undo width height current pixels)
    (current, pixels)
  return pixels

/-- Read a lossless image whose sides must be these. -/
def readLossless (size : Size) (b : ByteArray) : Except Fault (Array Pixel) := do
  let (found, _) ← match readLosslessSides.result b 0 with
    | .error .shortRead => throw Bits.corrupt
    | r => r
  if found ≠ size then throw badSides
  (readPixelsOf size).run' ⟨b, 40⟩

end Iconsmith.WebP
