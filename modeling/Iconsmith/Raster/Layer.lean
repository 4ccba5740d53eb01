import Iconsmith.Binary32
import Iconsmith.Bitmap

/-!
Layers that drawings are made on: pixels whose colours are multiplied by their alpha.
-/

namespace Iconsmith.Raster

/-- A colour and its alpha as fractions. -/
structure Rgba where
  r : Float32
  g : Float32
  b : Float32
  a : Float32
deriving BEq, Inhabited, Repr

namespace Rgba

def clear : Rgba := ⟨0, 0, 0, 0⟩

def ofBytes (r g b a : UInt8) : Rgba :=
  ⟨r.toFloat32 / 255, g.toFloat32 / 255, b.toFloat32 / 255, a.toFloat32 / 255⟩

def premultiply (c : Rgba) : Rgba :=
  if c.a == 1 then c else ⟨c.r * c.a, c.g * c.a, c.b * c.a, c.a⟩

def fade (c : Rgba) (opacity : Float32) : Rgba := { c with a := min (max (c.a * opacity) 0) 1 }

@[inline]
def map (f : Float32 → Float32) (c : Rgba) : Rgba := ⟨f c.r, f c.g, f c.b, f c.a⟩

@[inline]
def zip (f : Float32 → Float32 → Float32) (c d : Rgba) : Rgba :=
  ⟨f c.r d.r, f c.g d.g, f c.b d.b, f c.a d.a⟩

end Rgba

/-- A colour and its alpha in 255ths. -/
structure Lanes where
  r : UInt32
  g : UInt32
  b : UInt32
  a : UInt32
deriving DecidableEq, Inhabited, Repr

namespace Lanes

def clear : Lanes := ⟨0, 0, 0, 0⟩

/-- A fraction in 255ths, a half rounded up. -/
@[inline]
def ofFraction (x : Float32) : UInt32 := (x * 255 + 0.5).toUInt32

/-- Round the parts of a colour, which are kept between zero and one. -/
@[inline]
def round (c : Rgba) : Lanes :=
  let f := fun x : Float32 => ofFraction (min (max x 0) 1)
  ⟨f c.r, f c.g, f c.b, f c.a⟩

/-- A product of 255ths in 255ths, rounded up. -/
@[inline]
def share (n : UInt32) : UInt32 := (n + 255) >>> 8

@[inline]
def map (f : UInt32 → UInt32) (c : Lanes) : Lanes := ⟨f c.r, f c.g, f c.b, f c.a⟩

@[inline]
def zip (f : UInt32 → UInt32 → UInt32) (c d : Lanes) : Lanes :=
  ⟨f c.r d.r, f c.g d.g, f c.b d.b, f c.a d.a⟩

@[inline]
def scale (c : Lanes) (k : UInt32) : Lanes := c.map fun x => share (x * k)

@[inline]
def premultiply (c : Lanes) : Lanes :=
  ⟨share (c.r * c.a), share (c.g * c.a), share (c.b * c.a), c.a⟩

end Lanes

/-- A rectangle of pixels with four bytes each, row by row. -/
structure Layer where
  width : Nat
  height : Nat
  bytes : ByteArray

namespace Layer

def filled (width height : Nat) (r g b a : UInt8) : Layer :=
  ⟨width, height, ⟨Array.ofFn (n := width * height * 4) fun i =>
    match i.val % 4 with
    | 0 => r
    | 1 => g
    | 2 => b
    | _ => a⟩⟩

def clear (width height : Nat) : Layer := ⟨width, height, ⟨Array.replicate (width * height * 4) 0⟩⟩

@[inline]
def byte (l : Layer) (i : Nat) : UInt8 := l.bytes.get! i

@[inline]
def lanes (l : Layer) (x y : Nat) : Lanes :=
  let i := (y * l.width + x) * 4
  ⟨(l.byte i).toUInt32, (l.byte (i + 1)).toUInt32, (l.byte (i + 2)).toUInt32,
    (l.byte (i + 3)).toUInt32⟩

@[inline]
def rgba (l : Layer) (x y : Nat) : Rgba :=
  let i := (y * l.width + x) * 4
  let f := fun b : UInt8 => b.toFloat32 * (1 / 255)
  ⟨f (l.byte i), f (l.byte (i + 1)), f (l.byte (i + 2)), f (l.byte (i + 3))⟩

@[inline]
def set (l : Layer) (x y : Nat) (c : Lanes) : Layer :=
  match l with
  | ⟨width, height, bytes⟩ =>
    let i := (y * width + x) * 4
    ⟨width, height, (((bytes.set! i c.r.toUInt8).set! (i + 1) c.g.toUInt8).set! (i + 2)
      c.b.toUInt8).set! (i + 3) c.a.toUInt8⟩

/-- Change each pixel by a function of its number, which counts row by row, and its colour. -/
def mapIdx (l : Layer) (f : Nat → Lanes → Lanes) : Layer :=
  let rec go : Nat → Layer → Layer
    | 0, l => l
    | n + 1, l => go n (l.set n 0 (f n (l.lanes n 0)))
  go (l.width * l.height) l

def map (l : Layer) (f : Lanes → Lanes) : Layer := l.mapIdx fun _ => f

def ofFn (width height : Nat) (f : Nat → Nat → Lanes) : Layer :=
  (clear width height).mapIdx fun n _ => f (n % width) (n / width)

/-- Round to the nearest integer, a half to the even one. -/
@[inline]
def roundEven (x : Float32) : UInt32 :=
  let n := Binary32.floor x
  let d := x - Float32.ofInt n
  let k := n.toNat.toUInt32
  if d > 0.5 || (d == 0.5 && k % 2 == 1) then k + 1 else k

/-- Change a pixel to a colour of fractions, which are kept between zero and one. -/
@[inline]
def setRgba (l : Layer) (x y : Nat) (c : Rgba) : Layer :=
  let f := fun v : Float32 => roundEven (min (max v 0) 1 * 255)
  l.set x y ⟨f c.r, f c.g, f c.b, f c.a⟩

/-- Divide a colour by its alpha, a half rounded up. -/
def straight (c : Lanes) : Pixel :=
  if c.a == 255 then ⟨c.r.toUInt8, c.g.toUInt8, c.b.toUInt8, 255⟩
  else
    let a := c.a.toFloat / 255
    let f := fun v : UInt32 => (v.toFloat / a + 0.5).toUInt8
    ⟨f c.r, f c.g, f c.b, c.a.toUInt8⟩

def toBitmap (l : Layer) (size : Size) : Bitmap :=
  .ofFn size.width size.height fun x y => straight (l.lanes x y)

end Layer
end Iconsmith.Raster
