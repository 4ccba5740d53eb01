import Iconsmith.Bmp.Decoder
import Iconsmith.Hdr
import Iconsmith.Proofs.Codec.Outcome
import Iconsmith.Qoi

/-! Images whose rows are filled by operations of varying length. However the
operations of a file go on, the image is full when they end. -/
namespace Iconsmith

open Codec

/-! ### Indices and words -/

namespace Bmp

/-- Putting pixels replaces some of those that are there. -/
theorem Filling.size_of_put {ps : List Pixel} {f g : Filling} (h : f.put ps = some g) :
    g.pixels.size = f.pixels.size := by
  induction ps generalizing f with
  | nil =>
      obtain rfl := Option.some.inj h
      rfl
  | cons p ps ih =>
      rw [put] at h
      split at h
      · rw [ih h, Array.size_setIfInBounds]
      · simp at h

theorem Filling.size_of_move {dx dy : Nat} {f g : Filling} (h : f.move dx dy = some g) :
    g.pixels.size = f.pixels.size := by
  unfold move at h
  split at h
  · obtain rfl := Option.some.inj h
    rfl
  · simp at h

theorem yields_inside {f : Option Filling} {n : Nat} (h : ∀ g, f = some g → g.pixels.size = n) :
    (inside f).Yields fun g => g.pixels.size = n := by
  cases f with
  | none => exact Reading.yields_throw _
  | some g => exact Reading.yields_pure (h g rfl)

/-- Runs fill an image without changing the number of its pixels. -/
theorem yields_readRuns (bits : Nat) (colour : Nat → Pixel) (steps : Nat) {n : Nat} {f : Filling}
    (h : f.pixels.size = n) : (readRuns bits colour steps f).Yields fun out => out.size = n := by
  induction steps generalizing f with
  | zero => exact Reading.yields_throw _
  | succ steps ih =>
      have hPut (ps : List Pixel) : (inside (f.put ps)).Yields fun g => g.pixels.size = n :=
        yields_inside fun g hg => (Filling.size_of_put hg).trans h
      have hMove (dx dy : Nat) : (inside (f.move dx dy)).Yields fun g => g.pixels.size = n :=
        yields_inside fun g hg => (Filling.size_of_move hg).trans h
      rw [readRuns]
      split
      · exact Reading.yields_pure h
      · refine Reading.yields_bind fun control => Reading.yields_bind fun op => ?_
        dsimp only
        split
        · exact (hPut _).bind fun g hg => ih hg
        · split
          · exact ih h
          · split
            · exact Reading.yields_pure h
            · split
              · refine Reading.yields_bind fun dx => Reading.yields_bind fun dy => ?_
                exact (hMove dx dy).bind fun g hg => ih hg
              · exact Reading.yields_bind fun bytes => (hPut _).bind fun g hg => ih hg

namespace Header

theorem yields_readRows (h : Header) (bits : Nat) (pixelIn : ByteArray → Nat → Nat → Pixel) :
    (h.readRows bits pixelIn).Yields fun out => out.size = h.size.area :=
  Reading.yields_bind fun _ => Reading.yields_bind fun _ =>
    Reading.yields_pure Array.size_ofFn

/-- Packed or not, there are as many pixels as the header says. -/
theorem yields_readPixels (h : Header) : h.readPixels.Yields fun out => out.size = h.size.area := by
  unfold readPixels
  split
  case h_5 bits _ =>
    refine Reading.yields_bind fun _ => Reading.yields_bind fun b => ?_
    exact yields_readRuns bits h.colour (b.size + 1) Array.size_replicate
  all_goals exact h.yields_readRows _ _

theorem size_fromTop {h : Header} {pixels : Array Pixel} (hPixels : pixels.size = h.size.area) :
    (h.fromTop pixels).size = h.size.area := by
  unfold fromTop
  split
  · exact hPixels
  · exact Array.size_ofFn

end Header

/-- However the rows are packed, there is a pixel for each place of the announced size. -/
theorem size_pixels {b : ByteArray} {size : Size} {out : Array Pixel}
    (hSize : dimensions b = .ok size) (hPixels : pixels b = .ok out) : out.size = size.area := by
  obtain ⟨h, -, rfl, hRest⟩ := exists_of_shared hSize hPixels
  obtain ⟨rows, hRows, hOut⟩ := bind_eq_ok.mp hRest
  obtain rfl := Except.ok.inj hOut
  exact Header.size_fromTop (h.yields_readPixels.result_eq_ok hRows)

end Bmp

/-! ### Operations that add pixels -/

namespace Qoi

/-- Every operation adds a pixel at least, and none adds more than are missing. -/
theorem yields_readOps (hasAlpha : Bool) {total steps : Nat} {m : Memory} {out : Array Pixel}
    (hSize : out.size ≤ total) (hSteps : total ≤ out.size + steps) :
    (readOps hasAlpha total steps m out).Yields fun all => all.size = total := by
  -- The pixels that are missing never outnumber the steps that are left.
  induction steps generalizing m out with
  | zero => exact Reading.yields_pure (by omega)
  | succ steps ih =>
      rw [readOps]
      split
      · exact Reading.yields_pure (by omega)
      · refine Reading.yields_bind fun op => ?_
        split
        · exact ih (by rw [Array.size_push]; omega) (by rw [Array.size_push]; omega)
        · split
          · apply ih <;> rw [Array.size_append, Array.size_replicate] <;> omega
          · refine Reading.yields_bind fun p => ?_
            exact ih (by rw [Array.size_push]; omega) (by rw [Array.size_push]; omega)

theorem yields_readPixels (h : Header) : (readPixels h).Yields fun out => out.size = h.size.area := by
  refine (yields_readOps h.hasAlpha (Nat.zero_le _) (by simp)).bind fun out hOut => ?_
  exact Reading.yields_bind fun mark => Reading.yields_guard fun _ => Reading.yields_pure hOut

theorem size_pixels {b : ByteArray} {size : Size} {out : Array Pixel}
    (hSize : dimensions b = .ok size) (hPixels : pixels b = .ok out) : out.size = size.area := by
  obtain ⟨h, -, rfl, hRest⟩ := exists_of_shared hSize hPixels
  obtain ⟨-, -, hRest⟩ := bind_eq_ok.mp hRest
  split at hRest
  · cases hRest
  · cases hRest
  · next rows hRows =>
    obtain rfl := Except.ok.inj hRest
    exact (yields_readPixels h).result_eq_ok hRows

end Qoi

/-! ### Rows of cells -/

namespace Hdr

/-- A cell takes up at least one byte. -/
theorem run_cell_eq_ok {b : ByteArray} {i j : Nat} {c : Cell}
    (h : (Cell.read.run b).run i = .ok (c, j)) : i < b.size ∧ i < j := by
  obtain ⟨_, _, hr, h⟩ := Reading.run_bind_eq_ok h
  obtain ⟨_, _, hg, h⟩ := Reading.run_bind_eq_ok h
  obtain ⟨_, _, hb, h⟩ := Reading.run_bind_eq_ok h
  obtain ⟨_, _, he, h⟩ := Reading.run_bind_eq_ok h
  cases h
  obtain ⟨rfl, hSize⟩ := Reading.run_byte_eq_ok hr
  obtain ⟨rfl, -⟩ := Reading.run_byte_eq_ok hg
  obtain ⟨rfl, -⟩ := Reading.run_byte_eq_ok hb
  obtain ⟨rfl, -⟩ := Reading.run_byte_eq_ok he
  exact ⟨hSize, by omega⟩

/-- Every step takes bytes of the file, so that the file ends before the steps do,
even where a run adds nothing. -/
theorem size_readCells {width steps factor : Nat} {last : Cell} {acc out : Array Cell}
    {b : ByteArray} {i : Nat} (hSize : acc.size ≤ width) (hSteps : b.size - i < steps)
    (h : (readCells width steps factor last acc).result b i = .ok out) : out.size = width := by
  induction steps generalizing factor last acc i with
  | zero => omega
  | succ steps ih =>
      rw [readCells] at h
      split at h
      · next hFull =>
        cases h
        exact Nat.le_antisymm hSize hFull
      · obtain ⟨c, j, hCell, h⟩ := Reading.result_bind_eq_ok h
        obtain ⟨hInside, hMoved⟩ := run_cell_eq_ok hCell
        split at h
        · dsimp only at h
          split at h
          · cases h
          · refine ih ?_ (by omega) h
            rw [Array.size_append, Array.size_replicate]
            omega
        · exact ih (by rw [Array.size_push]; omega) (by omega) h

/-- A row of cells is as long as the image is wide, packed or not. -/
theorem size_readRow {width : Nat} (hWidth : 0 < width) {b : ByteArray} {i : Nat}
    {row : Array Cell} (h : (readRow width).result b i = .ok row) : row.size = width := by
  obtain ⟨first, j, -, h⟩ := Reading.result_bind_eq_ok h
  obtain ⟨left, k, hLeft, h⟩ := Reading.result_bind_eq_ok h
  cases hLeft
  dsimp only at h
  split at h
  · refine Reading.Yields.result_eq_ok (P := fun row => row.size = width) ?_ h
    refine Reading.yields_bind fun r => Reading.yields_bind fun g => ?_
    refine Reading.yields_bind fun b => Reading.yields_bind fun e => ?_
    exact Reading.yields_pure Array.size_ofFn
  · split at h
    · cases h
    · refine size_readCells ?_ (Nat.lt_succ_self _) h
      exact hWidth

theorem yields_readRow {width : Nat} (hWidth : 0 < width) :
    (readRow width).Yields fun row => row.size = width := by
  rintro b i ⟨row, j⟩ h
  exact size_readRow hWidth (map_eq_ok.mpr ⟨_, h, rfl⟩)

/-- Every row adds its cells to those before. -/
theorem yields_readRows {width : Nat} (hWidth : 0 < width) (count : Nat) (acc : Array Pixel) :
    (readRows width count acc).Yields fun out => out.size = acc.size + width * count := by
  induction count generalizing acc with
  | zero => exact Reading.yields_pure rfl
  | succ count ih =>
      refine (yields_readRow hWidth).bind fun row hRow => ?_
      have h := ih (acc ++ row.map Cell.pixel)
      rwa [Array.size_append, Array.size_map, hRow, Nat.add_assoc, Nat.add_comm width,
        ← Nat.mul_succ] at h

theorem size_pixels {b : ByteArray} {size : Size} {out : Array Pixel}
    (hSize : dimensions b = .ok size) (hPixels : pixels b = .ok out) : out.size = size.area := by
  obtain ⟨h, j, hHeader, hRest⟩ := Reading.result_bind_eq_ok hPixels
  obtain rfl := Except.ok.inj (hSize.symm.trans (map_eq_ok.mpr ⟨_, hHeader, rfl⟩))
  refine Reading.Yields.result_eq_ok (P := fun out => out.size = size.area) ?_ hRest
  refine Reading.yields_bind fun _ => ?_
  split
  · next hEmpty => exact Reading.yields_pure hEmpty.symm
  · next hArea =>
    have hWidth : 0 < size.width.toNat := Nat.pos_of_ne_zero fun h => hArea (by simp [Size.area, h])
    have h := yields_readRows hWidth size.height.toNat #[]
    rwa [Array.size_empty, Nat.zero_add] at h

end Hdr

end Iconsmith
