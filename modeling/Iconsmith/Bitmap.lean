import Iconsmith.Size

/-!
Images of red, green, blue and alpha bytes with straight alpha: the colour of a pixel does not
depend on its alpha.
-/

namespace Iconsmith

structure Pixel where
  r : UInt8
  g : UInt8
  b : UInt8
  a : UInt8
deriving DecidableEq, Repr, Inhabited

namespace Pixel

/-- Nothing: black without any opacity. -/
def clear : Pixel := ⟨0, 0, 0, 0⟩

def gray (v : UInt8) : Pixel := ⟨v, v, v, 255⟩

/-- The bytes in file order. -/
def bytes (p : Pixel) : List UInt8 := [p.r, p.g, p.b, p.a]

end Pixel

/-- A rectangle of pixels, row by row from the top, each row from the left. -/
structure Bitmap where
  width : UInt32
  height : UInt32
  pixels : Array Pixel
  size_eq : pixels.size = width.toNat * height.toNat

namespace Bitmap

/-- The image whose pixel in column `x` and row `y` is `f x y`. -/
def ofFn (width height : UInt32) (f : Nat → Nat → Pixel) : Bitmap where
  width := width
  height := height
  pixels := Array.ofFn (n := width.toNat * height.toNat) fun i =>
    f (i.val % width.toNat) (i.val / width.toNat)
  size_eq := by simp

/-- The image of the given pixels; those that are missing are clear, further ones are dropped. -/
def ofPixels (width height : UInt32) (pixels : Array Pixel) : Bitmap :=
  if h : pixels.size = width.toNat * height.toNat then ⟨width, height, pixels, h⟩
  else ofFn width height fun x y => (pixels[y * width.toNat + x]?).getD .clear

/-- The pixel in column `x` and row `y`; outside of the image it is clear. -/
def pixel (b : Bitmap) (x y : Nat) : Pixel :=
  if x < b.width.toNat then (b.pixels[y * b.width.toNat + x]?).getD .clear else .clear

def size (b : Bitmap) : Size := ⟨b.width, b.height⟩

def area (b : Bitmap) : Nat := b.width.toNat * b.height.toNat

theorem width_ofFn (w h : UInt32) (f : Nat → Nat → Pixel) : (ofFn w h f).width = w := rfl

theorem height_ofFn (w h : UInt32) (f : Nat → Nat → Pixel) : (ofFn w h f).height = h := rfl

theorem pixel_ofFn {w h : UInt32} {f : Nat → Nat → Pixel} {x y : Nat} (hx : x < w.toNat)
    (hy : y < h.toNat) : (ofFn w h f).pixel x y = f x y := by
  have hlt : y * w.toNat + x < w.toNat * h.toNat := by
    calc y * w.toNat + x < y * w.toNat + w.toNat := by omega
      _ = (y + 1) * w.toNat := by rw [Nat.succ_mul]
      _ ≤ h.toNat * w.toNat := Nat.mul_le_mul_right _ hy
      _ = w.toNat * h.toNat := Nat.mul_comm _ _
  have hw : 0 < w.toNat := by omega
  have hmod : (y * w.toNat + x) % w.toNat = x := by
    rw [Nat.mul_comm, Nat.mul_add_mod, Nat.mod_eq_of_lt hx]
  have hdiv : (y * w.toNat + x) / w.toNat = y := by
    rw [Nat.mul_comm, Nat.mul_add_div hw, Nat.div_eq_of_lt hx, Nat.add_zero]
  simp [pixel, ofFn, hx, hlt, hmod, hdiv]

end Bitmap
end Iconsmith
