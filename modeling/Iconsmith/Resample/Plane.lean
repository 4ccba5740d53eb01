/-!
Resampling of one channel. A plane is a rectangle of bytes; a pass changes one of its sides. A window
is, for each target sample of a pass, the run of source samples it is made of, with their weights as
fixed-point numbers of 16 bits. A convolution kernel says how much a source sample counts at a given
distance, measured in source samples when an image is enlarged and in target samples when it is
shrunk.
-/

namespace Iconsmith.Resample

/-- A kernel and the distance beyond which it is zero. -/
structure Kernel where
  support : Float
  weight : Float → Float

namespace Kernel

/-- A linear slope to both sides. -/
def triangle : Kernel where
  support := 1
  weight x :=
    let x := x.abs
    if x < 1 then 1 - x else 0

def catmullRom : Kernel where
  support := 2
  weight x :=
    let a : Float := -0.5
    let x := x.abs
    if x < 1 then ((a + 2) * x - (a + 3)) * x * x + 1
    else if x < 2 then (((x - 5) * x + 8) * x - 4) * a
    else 0

/-- The circle constant, to the precision of the format. -/
def pi : Float := 3.141592653589793

/-- The sine of `pi x` over `pi x`. -/
def sinc (x : Float) : Float :=
  if x == 0 then 1
  else
    let x := x * pi
    x.sin / x

/-- A sinc inside a window of three lobes. -/
def lanczos3 : Kernel where
  support := 3
  weight x := if -3 ≤ x && x < 3 then sinc x * sinc (x / 3) else 0

end Kernel

/-- Consecutive source samples from `start` on, with one weight each. -/
structure Window (α : Type) where
  start : Nat
  weights : Array α

/-- All windows of a pass, with the number of fractional bits of their weights. -/
structure Windows where
  precision : Nat
  windows : Array (Window Int)

def dropLeadingZeros (start : Nat) : List Float → Nat × List Float
  | [] => (start, [])
  | w :: ws => if w == 0 then dropLeadingZeros (start + 1) ws else (start, w :: ws)

def dropTrailingZeros (ws : List Float) : List Float :=
  (ws.reverse.dropWhile fun w => w == 0).reverse

/-- The window of target sample `i` when `source` samples become `target` samples. The weights
add up to one. -/
def windowAt (kernel : Kernel) (source target i : Nat) : Window Float :=
  let scale := Float.ofNat source / Float.ofNat target
  let stretch := if scale < 1 then 1 else scale
  let radius := kernel.support * stretch
  let center := (Float.ofNat i + 0.5) * scale
  let low := (max 0 (center - radius).floor).toUInt64.toNat
  let high := min source (center + radius).ceil.toUInt64.toNat
  let middle := center - 0.5
  let shrink := 1 / stretch
  let raw := (List.range' low (high - low)).map fun x =>
    kernel.weight ((Float.ofNat x - middle) * shrink)
  let (start, ws) := dropLeadingZeros low raw
  let total := ws.foldl (· + ·) 0
  let ws := dropTrailingZeros ws
  ⟨start, (if total != 0 then ws.map (· / total) else ws).toArray⟩

/-- A fixed-point number as an integer, a half away from zero. -/
def toFixed (precision : Nat) (w : Float) : Int :=
  (w * Float.ofNat (1 <<< precision)).round.toInt64.toInt

/-- The greatest precision, at most 21, at which the greatest weight still rounds below
`2 ^ 15`. -/
def precisionFor (greatest : Float) : Nat :=
  go 21
where
  go : Nat → Nat
    | 0 => 0
    | p + 1 => if toFixed (p + 1) greatest < 1 <<< 15 then p + 1 else go p

/-- The windows for a pass from `source` to `target` samples. -/
def windows (kernel : Kernel) (source target : Nat) : Windows :=
  let raw := (Array.range target).map (windowAt kernel source target)
  let greatest := raw.foldl (fun m w => w.weights.foldl max m) 0
  let precision := precisionFor greatest
  ⟨precision, raw.map fun w => ⟨w.start, w.weights.map (toFixed precision)⟩⟩

/-- One channel of an image, row by row. -/
structure Plane where
  width : Nat
  height : Nat
  samples : Array UInt8

namespace Plane

/-- The plane whose sample in column `x` and row `y` is `f x y`. -/
def ofFn (width height : Nat) (f : Nat → Nat → UInt8) : Plane where
  width := width
  height := height
  samples := Array.ofFn (n := width * height) fun i => f (i.val % width) (i.val / width)

/-- The sample in column `x` and row `y`; outside of the plane it is zero. -/
@[inline]
def sample (p : Plane) (x y : Nat) : UInt8 := (p.samples[y * p.width + x]?).getD 0

end Plane

def clampByte (v : Int) : UInt8 := (max 0 (min 255 v)).toNat.toUInt8

/-- The weighted sum of source samples, rounded to a byte. -/
def blend (precision : Nat) (w : Window Int) (sample : Nat → UInt8) : UInt8 :=
  let half : Int := if precision = 0 then 0 else (1 <<< (precision - 1) : Nat)
  let sum := go sample w.weights.toList w.start half
  clampByte (sum >>> precision)
where
  go (sample : Nat → UInt8) : List Int → Nat → Int → Int
    | [], _, acc => acc
    | c :: cs, i, acc => go sample cs (i + 1) (acc + c * ((sample i).toNat : Int))

def Windows.get (ws : Windows) (i : Nat) : Window Int := (ws.windows[i]?).getD ⟨0, #[]⟩

/-- Change the height of a plane; the columns stay apart. -/
def resampleRows (ws : Windows) (height : Nat) (p : Plane) : Plane :=
  .ofFn p.width height fun x y => blend ws.precision (ws.get y) fun i => p.sample x i

/-- Change the width of a plane; the rows stay apart. -/
def resampleColumns (ws : Windows) (width : Nat) (p : Plane) : Plane :=
  .ofFn width p.height fun x y => blend ws.precision (ws.get x) fun i => p.sample i y

/-- Change both sides of a plane, the height first. A side that stays as it is has no pass. -/
def convolve (kernel : Kernel) (width height : Nat) (p : Plane) : Plane :=
  let p := if p.height = height then p
    else resampleRows (windows kernel p.height height) height p
  if p.width = width then p else resampleColumns (windows kernel p.width width) width p

end Iconsmith.Resample
