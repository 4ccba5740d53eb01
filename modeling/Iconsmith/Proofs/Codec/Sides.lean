import Iconsmith.Codec.Decode
import Iconsmith.Proofs.Codec.Lossless
import Iconsmith.Proofs.Codec.Runs
import Iconsmith.Proofs.Codec.Segments

/-! The sides that are told from the header of a file and the pixels that are read
from all of it. No file of any format has a header that announces fewer pixels, or
more, than are made of it. -/
namespace Iconsmith

open Codec

theorem Bitmap.size_ofPixels (width height : UInt32) (pixels : Array Pixel) :
    (ofPixels width height pixels).size = ⟨width, height⟩ := by
  unfold ofPixels
  split <;> rfl

/-- A bitmap keeps its pixels if there is one for each place. -/
theorem Bitmap.pixels_ofPixels {size : Size} {pixels : Array Pixel}
    (h : pixels.size = size.area) : (ofPixels size.width size.height pixels).pixels = pixels := by
  have hArea : pixels.size = size.width.toNat * size.height.toNat := h
  rw [ofPixels, dif_pos hArea]

/-! ### Files with the pixels behind one header -/

namespace Png

/-- An image is put together in the size of its header, whatever its rows hold. -/
theorem size_assemble (narrow : Nat → UInt8) (p : Preamble) (parts : List (Pass × Array ByteArray)) :
    (assemble narrow p parts).size = p.header.size := by
  unfold assemble
  dsimp only
  split
  · exact Bitmap.size_ofPixels _ _ _
  · rfl

/-- The size of a decoded image is the one that is told from the header alone. -/
theorem size_decode {b : ByteArray} {size : Size} {image : Image}
    (hSize : dimensions b = .ok size) (hImage : decode b = .ok image) :
    image.bitmap.size = size := by
  obtain ⟨p, hPreamble, hHeader⟩ := bind_eq_ok.mp hSize
  obtain ⟨q, hAgain, h⟩ := bind_eq_ok.mp hImage
  obtain rfl := Except.ok.inj (hPreamble.symm.trans hAgain)
  obtain rfl := Except.ok.inj hHeader
  replace ⟨_, _, h⟩ := bind_eq_ok.mp h
  replace ⟨_, h⟩ := guard_eq_ok.mp h
  dsimp only at h
  split at h
  · obtain ⟨data, -, h⟩ := bind_eq_ok.mp h
    obtain ⟨-, h⟩ := guard_eq_ok.mp h
    split at h
    · cases h
    · obtain rfl := Except.ok.inj h
      exact size_assemble _ _ _
  all_goals cases h

theorem size_pixels {b : ByteArray} {size : Size} {image : Image}
    (hSize : dimensions b = .ok size) (hImage : decode b = .ok image) :
    image.bitmap.pixels.size = size.area := by
  obtain rfl := size_decode hSize hImage
  exact image.bitmap.size_eq

end Png

/-- Pixels are read by counting, so there are as many as the header says. -/
theorem Farbfeld.size_pixels {b : ByteArray} {size : Size} {out : Array Pixel}
    (hSize : dimensions b = .ok size) (hPixels : pixels b = .ok out) : out.size = size.area := by
  obtain ⟨h, hHeader, hRest⟩ := bind_eq_ok.mp hPixels
  obtain rfl := Except.ok.inj (hSize.symm.trans hHeader)
  obtain ⟨-, -, hRest⟩ := bind_eq_ok.mp hRest
  obtain ⟨-, hRest⟩ := guard_eq_ok.mp hRest
  obtain rfl := Except.ok.inj hRest
  exact Array.size_ofFn

/-- The sides are those of the directory, for the announced size as for the rows. -/
theorem Tiff.size_pixels {b : ByteArray} {size : Size} {out : Array Pixel}
    (hSize : dimensions b = .ok size) (hPixels : pixels b = .ok out) : out.size = size.area := by
  obtain ⟨h, -, rfl, hRest⟩ := exists_of_shared hSize hPixels
  obtain ⟨-, -, hRest⟩ := bind_eq_ok.mp hRest
  obtain ⟨-, hRest⟩ := guard_eq_ok.mp hRest
  obtain ⟨rows, -, hOut⟩ := bind_eq_ok.mp hRest
  obtain rfl := Except.ok.inj hOut
  exact Array.size_ofFn

theorem Pnm.size_pixels {b : ByteArray} {size : Size} {out : Array Pixel}
    (hSize : dimensions b = .ok size) (hPixels : pixels b = .ok out) : out.size = size.area := by
  obtain ⟨h, -, rfl, hRest⟩ := exists_of_shared hSize hPixels
  obtain ⟨-, -, hRest⟩ := bind_eq_ok.mp hRest
  obtain ⟨samples, -, hOut⟩ := bind_eq_ok.mp hRest
  obtain rfl := Except.ok.inj hOut
  exact Array.size_ofFn

/-- The pixels of the places are looked up one by one, in whatever order the file has them. -/
theorem Tga.size_pixels {b : ByteArray} {size : Size} {out : Array Pixel}
    (hSize : dimensions b = .ok size) (hPixels : pixels b = .ok out) : out.size = size.area := by
  obtain ⟨p, -, rfl, hRest⟩ := exists_of_shared hSize hPixels
  obtain ⟨raw, -, hAll⟩ := bind_eq_ok.mp hRest
  exact (size_of_mapM hAll).trans Array.size_range

/-- Pixels come in blocks; those beyond the sides are left out. -/
theorem Dds.size_pixels {b : ByteArray} {size : Size} {out : Array Pixel}
    (hSize : dimensions b = .ok size) (hPixels : pixels b = .ok out) : out.size = size.area := by
  obtain ⟨h, j, rfl, hRest⟩ := Reading.exists_of_shared_result hSize hPixels
  refine Reading.Yields.result_eq_ok (P := fun out => out.size = h.size.area) ?_ hRest
  exact Reading.yields_bind fun _ => Reading.yields_bind fun blocks =>
    Reading.yields_pure Array.size_ofFn

theorem Gif.whole_eq_ok {α : Type} {r : Except Fault α} {x : α} (h : whole r = .ok x) :
    r = .ok x := by
  unfold whole at h
  split at h
  · cases h
  · exact h

/-- A frame may be smaller than the screen. The pixels are those of the screen. -/
theorem Gif.size_pixels {b : ByteArray} {size : Size} {out : Array Pixel}
    (hSize : dimensions b = .ok size) (hPixels : pixels b = .ok out) : out.size = size.area := by
  obtain ⟨⟨screen, f, indices⟩, hFirst, hOut⟩ := bind_eq_ok.mp hPixels
  obtain rfl := Except.ok.inj hOut
  unfold first at hFirst
  split at hFirst
  · split at hFirst <;> cases hFirst
  · obtain ⟨h, j, hScreen, hRest⟩ :=
      Reading.exists_of_shared_result (whole_eq_ok hSize) hFirst
    have hKept : screen = h.size := by
      refine Reading.Yields.result_eq_ok (P := fun r => r.1 = h.size) ?_ hRest
      refine Reading.yields_bind fun _ => Reading.yields_bind fun left => ?_
      refine Reading.yields_bind fun found => ?_
      split
      · exact Reading.yields_throw _
      · exact Reading.yields_bind fun indices => Reading.yields_pure rfl
    obtain rfl := hKept.trans hScreen
    exact Array.size_ofFn

theorem Exr.whole_eq_ok {α : Type} {r : Except Fault α} {x : α} (h : whole r = .ok x) :
    r = .ok x := by
  unfold whole at h
  split at h
  · cases h
  · exact h

/-- A block is painted over an image and does not change its size. -/
theorem Exr.size_paint (h : Header) (image : Array Pixel) (k : Block) :
    (paint h image k).size = image.size := by
  unfold paint
  refine List.foldlRecOn (motive := fun out : Array Pixel => out.size = image.size) _ _ rfl ?_
  intro out hOut j _
  refine List.foldlRecOn (motive := fun out : Array Pixel => out.size = image.size) _ _ hOut ?_
  intro out hOut i _
  dsimp only
  split
  · rw [Array.size_setIfInBounds, hOut]
  · exact hOut

/-- Blocks are painted one by one over an image of the size of the header. -/
theorem Exr.size_pixels {b : ByteArray} {size : Size} {out : Array Pixel}
    (hSize : dimensions b = .ok size) (hPixels : pixels b = .ok out) : out.size = size.area := by
  unfold pixels at hPixels
  split at hPixels
  · split at hPixels <;> cases hPixels
  · obtain ⟨h, j, rfl, hRest⟩ :=
      Reading.exists_of_shared_result (whole_eq_ok hSize) hPixels
    refine Reading.Yields.result_eq_ok (P := fun out => out.size = h.size.area) ?_ hRest
    refine Reading.yields_bind fun _ => Reading.yields_bind fun _ => ?_
    refine Reading.yields_bind fun table => Reading.yields_bind fun blocks => ?_
    refine Reading.yields_pure (List.foldlRecOn
      (motive := fun out : Array Pixel => out.size = h.size.area) _ _ Array.size_replicate ?_)
    intro out hOut k _
    exact (size_paint h out k).trans hOut

/-! ### Files with other files in them -/

namespace Ico

/-- An icon with a complete file in it has the size of that file. -/
theorem size_pngPixels {e : Entry} {file : ByteArray} {size : Size} {out : Array Pixel}
    (hSize : sizeOf e (.png file) = .ok size) (hPixels : pngPixels e file = .ok out) :
    out.size = size.area := by
  have hInner : Png.dimensions file = .ok size := by
    obtain ⟨h, -, hRest⟩ := bind_eq_ok.mp hSize
    exact (guard_eq_ok.mp hRest).2
  obtain ⟨_, -, h⟩ := bind_eq_ok.mp hPixels
  obtain ⟨-, h⟩ := guard_eq_ok.mp h
  obtain ⟨-, -, h⟩ := bind_eq_ok.mp h
  obtain ⟨p, -, h⟩ := bind_eq_ok.mp h
  obtain ⟨-, h⟩ := guard_eq_ok.mp h
  obtain ⟨image, hImage, h⟩ := bind_eq_ok.mp h
  obtain rfl := Except.ok.inj h
  exact Png.size_pixels hInner hImage

theorem yields_bmpPixels (e : Entry) (h : Bmp.Header) :
    (bmpPixels e h).Yields fun out => out.size = h.size.area := by
  refine Reading.yields_bind fun _ => Reading.yields_bind fun _ => ?_
  refine h.yields_readPixels.bind fun rows hRows => ?_
  have hPixels := Bmp.Header.size_fromTop hRows
  refine Reading.yields_bind fun here => ?_
  dsimp only
  split
  · exact Reading.yields_bind fun mask => Reading.yields_pure (Array.size_mapIdx.trans hPixels)
  · split
    · exact Reading.yields_pure hPixels
    · exact Reading.yields_throw _

/-- Either kind of icon has the pixels of the size that is told for it. -/
theorem size_pixels {b : ByteArray} {size : Size} {out : Array Pixel}
    (hSize : dimensions b = .ok size) (hPixels : pixels b = .ok out) : out.size = size.area := by
  obtain ⟨⟨e, c⟩, hBest, hSize⟩ := bind_eq_ok.mp hSize
  obtain ⟨_, hAgain, hPixels⟩ := bind_eq_ok.mp hPixels
  obtain rfl := Except.ok.inj (hBest.symm.trans hAgain)
  cases c with
  | png file => exact size_pngPixels hSize hPixels
  | bmp h =>
      obtain rfl := Except.ok.inj hSize
      exact (yields_bmpPixels e h).result_eq_ok hPixels

end Ico

/-! ### All formats -/

namespace Codec

/-- The pixels of a file are as many as its header announces. -/
theorem size_pixels {f : Format} {b : ByteArray} {size : Size} {out : Array Pixel}
    (hSize : dimensions f b = .ok size) (hPixels : pixels f b = .ok out) :
    out.size = size.area := by
  cases f with
  | png =>
      obtain ⟨image, hImage, rfl⟩ := map_eq_ok.mp hPixels
      exact Png.size_pixels hSize hImage
  | bmp => exact Bmp.size_pixels hSize hPixels
  | tga => exact Tga.size_pixels hSize hPixels
  | gif => exact Gif.size_pixels hSize hPixels
  | ico => exact Ico.size_pixels hSize hPixels
  | tiff => exact Tiff.size_pixels hSize hPixels
  | hdr => exact Hdr.size_pixels hSize hPixels
  | dds => exact Dds.size_pixels hSize hPixels
  | openExr => exact Exr.size_pixels hSize hPixels
  | webP => exact WebP.size_pixels hSize hPixels
  | jpeg => exact Jpeg.size_pixels hSize hPixels
  | pnm => exact Pnm.size_pixels hSize hPixels
  | farbfeld => exact Farbfeld.size_pixels hSize hPixels
  | qoi => exact Qoi.size_pixels hSize hPixels
  | avif => cases hSize

/-- The image in a file has the announced sides and the pixels of the file: none is
made up, and none is dropped. -/
theorem decode_eq_ok {f : Format} {b : ByteArray} {image : Bitmap} :
    decode f b = .ok image ↔
      dimensions f b = .ok image.size ∧ pixels f b = .ok image.pixels := by
  constructor
  · intro h
    obtain ⟨size, hSize, h⟩ := bind_eq_ok.mp h
    obtain ⟨out, hPixels, h⟩ := bind_eq_ok.mp h
    obtain rfl := Except.ok.inj h
    rw [Bitmap.size_ofPixels, Bitmap.pixels_ofPixels (size_pixels hSize hPixels)]
    exact ⟨hSize, hPixels⟩
  · rintro ⟨hSize, hPixels⟩
    have hWhole : Bitmap.ofPixels image.width image.height image.pixels = image :=
      dif_pos image.size_eq
    rw [decode, hSize, hPixels]
    exact congrArg Except.ok hWhole

end Codec

end Iconsmith
