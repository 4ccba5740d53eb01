import Iconsmith.Bitmap
import Mathlib.Tactic

/-! An image is its sides and its pixels, and nothing outside of them counts. -/
namespace Iconsmith.Bitmap

theorem ext_pixels {a b : Bitmap} (hWidth : a.width = b.width) (hHeight : a.height = b.height)
    (hPixels : a.pixels = b.pixels) : a = b := by
  cases a
  cases b
  simp_all

/-- Only pixels inside of an image count. -/
theorem ofFn_congr {w h : UInt32} {f g : Nat → Nat → Pixel}
    (hSame : ∀ x y, x < w.toNat → y < h.toNat → f x y = g x y) : ofFn w h f = ofFn w h g := by
  refine ext_pixels rfl rfl ?_
  simp only [ofFn]
  congr 1
  funext i
  have hArea := i.isLt
  have hPos : 0 < w.toNat := Nat.pos_of_ne_zero fun hZero => by simp [hZero] at hArea
  exact hSame _ _ (Nat.mod_lt _ hPos) (Nat.div_lt_of_lt_mul hArea)

/-- The pixels are counted row by row. -/
theorem pixel_mod_div (b : Bitmap) {i : Nat} (hi : i < b.pixels.size) :
    b.pixel (i % b.width.toNat) (i / b.width.toNat) = b.pixels[i] := by
  have hArea := b.size_eq ▸ hi
  have hPos : 0 < b.width.toNat := Nat.pos_of_ne_zero fun hZero => by simp [hZero] at hArea
  have hPlace : i / b.width.toNat * b.width.toNat + i % b.width.toNat = i :=
    Nat.div_add_mod' i _
  simp [pixel, Nat.mod_lt _ hPos, hPlace, hi]

/-- An image is made of its pixels. -/
theorem ofFn_pixel (b : Bitmap) : ofFn b.width b.height b.pixel = b := by
  refine ext_pixels rfl rfl (Array.ext ?_ fun i hi hi' => ?_)
  · simp [ofFn, b.size_eq]
  · simp [ofFn, b.pixel_mod_div hi']

theorem mod_lt_width (b : Bitmap) {i : Nat} (hi : i < b.pixels.size) :
    i % b.width.toNat < b.width.toNat ∧ i / b.width.toNat < b.height.toNat := by
  rw [b.size_eq] at hi
  have hPos : 0 < b.width.toNat := Nat.pos_of_ne_zero fun hZero => by simp [hZero] at hi
  exact ⟨Nat.mod_lt _ hPos, Nat.div_lt_of_lt_mul hi⟩

/-- What is taken of each pixel is the same for two images if it is the same at
every place. -/
theorem map_pixels_congr {α : Type} {a b : Bitmap} {f : Pixel → α} (hSize : a.size = b.size)
    (hSame : ∀ x y, x < a.width.toNat → y < a.height.toNat → f (a.pixel x y) = f (b.pixel x y)) :
    a.pixels.map f = b.pixels.map f := by
  have hWidth : a.width = b.width := congrArg Size.width hSize
  have hHeight : a.height = b.height := congrArg Size.height hSize
  have hCount : a.pixels.size = b.pixels.size := by rw [a.size_eq, b.size_eq, hWidth, hHeight]
  refine Array.ext (by simp [hCount]) fun i hi hi' => ?_
  rw [Array.size_map] at hi hi'
  obtain ⟨hx, hy⟩ := a.mod_lt_width hi
  have hPlace := hSame _ _ hx hy
  rw [pixel_mod_div a hi, hWidth, pixel_mod_div b hi'] at hPlace
  simpa using hPlace

end Iconsmith.Bitmap
