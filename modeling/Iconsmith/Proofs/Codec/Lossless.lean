import Iconsmith.Proofs.Bytes.Placement
import Iconsmith.Proofs.Codec.Outcome
import Iconsmith.WebP.Decoder

/-! Lossless images. Their pixels are counted by the width that the transforms
leave, and taking the transforms back leads to the width that was announced. -/
namespace Iconsmith.WebP

open Codec

/-! ### Pixels -/

/-- A repetition adds as many pixels as it is long. -/
theorem Filling.size_repeatFrom (bits distance count : Nat) (f : Filling) :
    (f.repeatFrom bits distance count).pixels.size = f.pixels.size + count := by
  induction count generalizing f with
  | zero => rfl
  | succ count ih =>
      rw [repeatFrom, ih, push, Array.size_push]
      omega

/-- Lengths and distances are positive. -/
theorem yields_readExtended (symbol : Nat) : Yields (readExtended symbol) fun n => 0 < n := by
  rw [readExtended]
  split
  · exact yields_pure (Nat.succ_pos _)
  · exact yields_bind fun extra => yields_pure (Nat.succ_pos _)

/-- Every step adds a pixel at least, and none goes beyond the last, by induction on the steps. -/
theorem yields_readPixels (l : Layout) {total steps : Nat} {f : Filling}
    (hSize : f.pixels.size ≤ total) (hSteps : total ≤ f.pixels.size + steps) :
    Yields (readPixels l total steps f) fun out => out.size = total := by
  induction steps generalizing f with
  | zero => exact yields_pure (by omega)
  | succ steps ih =>
      have hPush (p : Pixel) (hMissing : ¬total ≤ f.pixels.size) :
          Yields (readPixels l total steps (f.push l.cacheBits p)) fun out => out.size = total := by
        apply ih <;> rw [Filling.push, Array.size_push] <;> omega
      rw [readPixels]
      dsimp only
      split
      · exact yields_pure (by omega)
      · next hMissing =>
        split
        · exact yields_throw _
        · refine yields_bind fun s => ?_
          split
          · refine yields_bind fun red => yields_bind fun blue => yields_bind fun alpha => ?_
            exact hPush _ hMissing
          · split
            · refine (yields_readExtended _).bind fun length hLength => ?_
              refine yields_bind fun symbol => yields_bind fun distance => ?_
              refine yields_guard fun hInside => ?_
              apply ih <;> rw [Filling.size_repeatFrom] <;> omega
            · exact hPush _ hMissing

theorem yields_readMain (width height : Nat) :
    Yields (readMain width height) fun out => out.size = width * height := by
  refine yields_bind fun bits => yields_bind fun isParted => ?_
  split
  · refine yields_bind fun squares => yields_bind fun map => yields_bind fun groups => ?_
    exact yields_readPixels _ (Nat.zero_le _) (by simp)
  · exact yields_bind fun group => yields_readPixels _ (Nat.zero_le _) (by simp)

/-! ### Transforms -/

theorem size_addPredictions (width bits : Nat) (map pixels : Array Pixel) :
    (addPredictions width bits map pixels).size = pixels.size := by
  unfold addPredictions
  refine List.foldlRecOn (motive := fun out : Array Pixel => out.size = pixels.size) _ _ rfl ?_
  intro out hOut i _
  rw [Array.size_setIfInBounds, hOut]

namespace Transform

/-- Some transform puts several pixels into one. -/
def IsPacked (ts : List Transform) : Prop := ∃ palette, indexed palette ∈ ts

/-- The pixels of an image once the transforms are taken back. -/
def undoAll (ts : List Transform) (width height current : Nat) (pixels : Array Pixel) :
    Array Pixel :=
  (ts.foldl (fun (current, pixels) t => t.undo width height current pixels) (current, pixels)).2

variable {width height current : Nat} {pixels : Array Pixel}

/-- An image with a pixel for each place has one for each when a transform is undone. -/
theorem size_undo (t : Transform) (h : pixels.size = width * height) :
    (t.undo width height current pixels).2.size = width * height := by
  cases t with
  | predict bits map => exact (size_addPredictions current bits map pixels).trans h
  | decorrelate bits map => exact Array.size_mapIdx.trans h
  | subtractGreen => exact Array.size_map.trans h
  | indexed palette => exact Array.size_ofFn

theorem size_undoAll (ts : List Transform) (h : pixels.size = width * height) :
    (undoAll ts width height current pixels).size = width * height := by
  induction ts generalizing current pixels with
  | nil => exact h
  | cons t ts ih => exact ih (t.size_undo h)

/-- Indices are looked up for every place of the image, however many of them there are. -/
theorem size_undoAll_of_isPacked {ts : List Transform} (h : IsPacked ts) :
    (undoAll ts width height current pixels).size = width * height := by
  induction ts generalizing current pixels with
  | nil => exact absurd h.choose_spec (List.not_mem_nil)
  | cons t ts ih =>
      obtain ⟨palette, hMem⟩ := h
      rcases List.mem_cons.mp hMem with rfl | hMem
      · exact size_undoAll ts Array.size_ofFn
      · exact ih ⟨palette, hMem⟩

end Transform

/-- The rows only get narrower where several pixels are put into one. -/
theorem yields_readTransforms (height steps : Nat) (kinds : List Nat) {width current : Nat}
    {acc : List Transform} (h : current = width ∨ Transform.IsPacked acc) :
    Yields (readTransforms height steps kinds current acc) fun r =>
      r.1 = width ∨ Transform.IsPacked r.2 := by
  have hCons (t : Transform) {acc : List Transform} {current : Nat}
      (h : current = width ∨ Transform.IsPacked acc) :
      current = width ∨ Transform.IsPacked (t :: acc) :=
    h.imp_right fun ⟨palette, hMem⟩ => ⟨palette, List.mem_cons_of_mem t hMem⟩
  induction steps generalizing kinds current acc with
  | zero => exact yields_pure h
  | succ steps ih =>
      rw [readTransforms]
      refine yields_bind fun more => ?_
      split
      · exact yields_pure h
      · refine yields_bind fun kind => yields_guard fun _ => ?_
        dsimp only
        split
        · exact ih _ (hCons _ h)
        · split
          · refine yields_bind fun size => yields_bind fun differences => ?_
            exact ih _ (.inr ⟨_, List.mem_cons_self⟩)
          · refine yields_bind fun bits => yields_bind fun map => ?_
            exact ih _ (hCons _ h)

/-- Behind all transforms there are the pixels of the size that was read. -/
theorem yields_readPixelsOf (size : Size) :
    Yields (readPixelsOf size) fun out => out.size = size.area := by
  refine (yields_readTransforms _ _ _ (.inl rfl)).bind fun (current, transforms) hWidth => ?_
  refine (yields_readMain current size.height.toNat).bind fun pixels hPixels => ?_
  have hUndone : (Transform.undoAll transforms size.width.toNat size.height.toNat current
      pixels).size = size.area := by
    rcases hWidth with hWidth | hPacked
    · exact Transform.size_undoAll transforms (hWidth ▸ hPixels)
    · exact Transform.size_undoAll_of_isPacked hPacked
  exact yields_pure hUndone

theorem size_readLossless {size : Size} {b : ByteArray} {out : Array Pixel}
    (h : readLossless size b = .ok out) : out.size = size.area := by
  unfold readLossless at h
  split at h
  · cases h
  · obtain ⟨found, -, h⟩ := bind_eq_ok.mp h
    obtain ⟨-, h⟩ := guard_eq_ok.mp h
    exact (yields_readPixelsOf size).run'_eq_ok h

/-! ### Opacities and frames -/

/-- Every opacity that is stored gives one opacity. -/
theorem Alpha.size_foldl_push (f : Array UInt8 → UInt8 → UInt8) (stored : Array UInt8) :
    (stored.foldl (fun known v => known.push (f known v)) #[]).size = stored.size := by
  refine Array.foldl_induction (fun i (known : Array UInt8) => known.size = i) rfl ?_
  intro i known hKnown
  rw [Array.size_push, hKnown]

/-- There is an opacity for every pixel. -/
theorem Alpha.size_read {size : Size} {b : ByteArray} {out : Array UInt8}
    (h : Alpha.read size b = .ok out) : out.size = size.area := by
  unfold read at h
  obtain ⟨-, h⟩ := guard_eq_ok.mp h
  obtain ⟨-, h⟩ := guard_eq_ok.mp h
  dsimp only at h
  split at h
  · obtain ⟨hLength, h⟩ := guard_eq_ok.mp h
    obtain rfl := Except.ok.inj h
    have hSlice : (Bytes.slice b 1 size.area).size = size.area := by
      rw [Bytes.slice, ByteArray.size_extract]
      omega
    rw [size_foldl_push, List.size_toArray, Bytes.length_toList, hSlice]
  · obtain ⟨pixels, hPixels, h⟩ := bind_eq_ok.mp h
    obtain rfl := Except.ok.inj h
    rw [size_foldl_push, Array.size_map, (yields_readPixelsOf size).run'_eq_ok hPixels]
  · cases h

/-- A lossy image is cut to its size. -/
theorem size_readLossy {size : Size} {b : ByteArray} {out : Array Pixel}
    (h : readLossy size b = .ok out) : out.size = size.area := by
  obtain ⟨found, -, h⟩ := bind_eq_ok.mp h
  obtain ⟨-, h⟩ := guard_eq_ok.mp h
  obtain rfl := Except.ok.inj h
  exact Array.size_ofFn

theorem size_readTranslucent {size : Size} {data alpha : ByteArray} {out : Array Pixel}
    (h : readTranslucent size data alpha = .ok out) : out.size = size.area := by
  obtain ⟨opaques, hOpaques, h⟩ := bind_eq_ok.mp h
  obtain ⟨opacities, hOpacities, h⟩ := bind_eq_ok.mp h
  obtain rfl := Except.ok.inj h
  rw [Array.size_map, Array.size_zip, size_readLossy hOpaques, Alpha.size_read hOpacities,
    Nat.min_self]

/-- Lossless, lossy or animated, a file has the pixels of the size that it announces. -/
theorem size_pixels {b : ByteArray} {size : Size} {out : Array Pixel}
    (hSize : dimensions b = .ok size) (hPixels : pixels b = .ok out) : out.size = size.area := by
  obtain ⟨h, -, rfl, hRest⟩ := exists_of_shared hSize hPixels
  obtain ⟨-, -, hRest⟩ := bind_eq_ok.mp hRest
  have hOpaque (all : Array Pixel) (hAll : all.size = h.size.area) :
      (if h.hasAlpha then all else all.map fun p => { p with a := 255 }).size = h.size.area := by
    split
    · exact hAll
    · exact Array.size_map.trans hAll
  dsimp only at hRest
  split at hRest
  · obtain ⟨all, hAll, hOut⟩ := bind_eq_ok.mp hRest
    obtain rfl := Except.ok.inj hOut
    exact hOpaque all (size_readLossless hAll)
  · split at hRest
    · split at hRest
      · obtain ⟨all, hAll, hOut⟩ := bind_eq_ok.mp hRest
        obtain rfl := Except.ok.inj hOut
        exact size_readTranslucent hAll
      · obtain ⟨-, -, hOut⟩ := bind_eq_ok.mp hRest
        cases hOut
    · obtain ⟨all, hAll, hOut⟩ := bind_eq_ok.mp hRest
      obtain rfl := Except.ok.inj hOut
      exact Array.size_map.trans (size_readLossy hAll)
  · obtain ⟨f, -, hOut⟩ := bind_eq_ok.mp hRest
    obtain rfl := Except.ok.inj hOut
    exact hOpaque _ Array.size_ofFn

end Iconsmith.WebP
