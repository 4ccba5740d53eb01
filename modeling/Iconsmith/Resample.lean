import Iconsmith.Binary64
import Iconsmith.Bitmap
import Iconsmith.Filter
import Iconsmith.Resample.Plane

/-!
Resampling of whole images. An image that already has the wanted size is kept as it is.

Without mixing, each target pixel is one source pixel. The source index of a target column is
computed afresh from its number, that of a target row by adding the step once more to the row
before, so the two may differ in the last place.

A kernel works on each channel by itself, on colours multiplied with alpha, so that hidden colours
do not count when pixels are mixed.
-/

namespace Iconsmith.Resample

/-- The middle of target column `i` in source columns. -/
def columnCenter (source target i : Nat) : Binary64 :=
  let step := Binary64.ofRatio source target
  step.half.add (step.mul (.ofNat i))

def nearestColumn (source target i : Nat) : Nat :=
  min (columnCenter source target i).floor (source - 1)

/-- The middle of target row `i` in source rows. -/
def rowCenter (source target : Nat) : Nat → Binary64
  | 0 => (Binary64.ofRatio source target).half
  | i + 1 => (rowCenter source target i).add (Binary64.ofRatio source target)

/-- The middles of the first `count` target rows from `center` on. -/
def rowCenters (step : Binary64) : Nat → Binary64 → List Binary64
  | 0, _ => []
  | count + 1, center => center :: rowCenters step count (center.add step)

def nearestRows (source target : Nat) : Array Nat :=
  let step := Binary64.ofRatio source target
  ((rowCenters step target step.half).map fun c => min c.floor (source - 1)).toArray

/-- Take for each target pixel the source pixel nearest to its middle, alpha included. -/
def nearest (b : Bitmap) (width height : UInt32) : Bitmap :=
  let columns := (Array.range width.toNat).map (nearestColumn b.width.toNat width.toNat)
  let rows := nearestRows b.height.toNat height.toNat
  .ofFn width height fun x y => b.pixel ((columns[x]?).getD 0) ((rows[y]?).getD 0)

/-- A colour byte times alpha over 255, rounded. -/
def premultiply (c a : UInt8) : UInt8 :=
  let t := c.toNat * a.toNat + 128
  (((t >>> 8) + t) >>> 8).toUInt8

/-- The fixed-point reciprocal of alpha: 255 over alpha with eight fractional bits, rounded. -/
def reciprocal (a : UInt8) : Nat :=
  if a = 0 then 0 else ((255 <<< 9) / a.toNat + 1) >>> 1

/-- Undo the multiplication with alpha as far as bytes allow. Without alpha there is no colour. -/
def unpremultiply (c a : UInt8) : UInt8 :=
  (min 255 ((c.toNat * reciprocal a + 128) >>> 8)).toUInt8

/-- One channel of an image, multiplied with alpha. -/
def colourPlane (channel : Pixel → UInt8) (b : Bitmap) : Plane where
  width := b.width.toNat
  height := b.height.toNat
  samples := b.pixels.map fun p => premultiply (channel p) p.a

def alphaPlane (b : Bitmap) : Plane where
  width := b.width.toNat
  height := b.height.toNat
  samples := b.pixels.map Pixel.a

def convolveBitmap (kernel : Kernel) (b : Bitmap) (width height : UInt32) : Bitmap :=
  let pass := convolve kernel width.toNat height.toNat
  let r := pass (colourPlane Pixel.r b)
  let g := pass (colourPlane Pixel.g b)
  let b' := pass (colourPlane Pixel.b b)
  let a := pass (alphaPlane b)
  .ofFn width height fun x y =>
    let alpha := a.sample x y
    ⟨unpremultiply (r.sample x y) alpha, unpremultiply (g.sample x y) alpha,
      unpremultiply (b'.sample x y) alpha, alpha⟩

end Iconsmith.Resample

namespace Iconsmith.Filter

/-- Bring an image to exactly the given size. -/
def resize (f : Filter) (b : Bitmap) (size : Size) : Bitmap :=
  if b.size = size then b
  else
    match f with
    | .nearest => Resample.nearest b size.width size.height
    | .triangle => Resample.convolveBitmap .triangle b size.width size.height
    | .catmullRom => Resample.convolveBitmap .catmullRom b size.width size.height
    | .lanczos3 => Resample.convolveBitmap .lanczos3 b size.width size.height

end Iconsmith.Filter
