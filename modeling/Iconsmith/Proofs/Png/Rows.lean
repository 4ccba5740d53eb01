import Iconsmith.Png.Decoder
import Iconsmith.Png.Encoder
import Iconsmith.Proofs.Bytes.Placement

/-! Rows of pixels as filtered bytes. Undoing a filter gives back the row that was
filtered, byte by byte: what a filter predicts depends on bytes that are known
by then. -/
namespace Iconsmith.Png

open Bytes

/-! ### Filters -/

namespace RowFilter

theorem ofCode?_code (f : RowFilter) : ofCode? f.code.toNat = some f := by
  cases f <;> rfl

/-- A filtered row is as long as the row. -/
theorem size_apply (f : RowFilter) (step : Nat) (above row : ByteArray) :
    (f.apply step above row).size = row.size := by
  cases f <;> simp [apply, size_ofList]

/-- A filtered byte is the difference to what the filter predicts. -/
theorem byte_apply (f : RowFilter) (step : Nat) (above : ByteArray) {row : ByteArray} {i : Nat}
    (h : i < row.size) :
    byte (f.apply step above row) i = byte row i - f.guess step above row i := by
  cases f with
  | none => simp [apply, guess, predict]
  | sub | up | average | paeth => simp [apply, byte_ofList, h]

/-- The prediction looks only at bytes in front of the predicted one. -/
theorem guess_extract (f : RowFilter) {step : Nat} (hStep : 0 < step) (above row : ByteArray)
    {i : Nat} (h : i ≤ row.size) :
    f.guess step above (row.extract 0 i) i = f.guess step above row i := by
  have hLeft (hi : ¬i < step) : byte (row.extract 0 i) (i - step) = byte row (i - step) :=
    byte_extract_zero h (by omega)
  unfold guess
  by_cases hi : i < step
  · simp [hi]
  · simp [hi, hLeft hi]

/-- What was filtered is found again, whatever is known of it already. -/
theorem undo_apply (f : RowFilter) {data above row : ByteArray} {start step : Nat}
    (hStep : 0 < step) (h : Holds data start (f.apply step above row)) (count : Nat) {i : Nat}
    (hCount : i + count = row.size) :
    f.undo data start step above count (row.extract 0 i) = row := by
  induction count generalizing i with
  | zero =>
      obtain rfl : i = row.size := by omega
      rw [undo, ByteArray.extract_zero_size]
  | succ count ih =>
      have hi : i < row.size := by omega
      have hByte : byte data (start + i) = byte row i - f.guess step above row i := by
        rw [h.byte_eq (by rwa [size_apply]), byte_apply f step above hi]
      rw [undo, size_extract_zero (Nat.le_of_lt hi), hByte,
        guess_extract f hStep above row (Nat.le_of_lt hi)]
      simp only [UInt8.sub_add_cancel, extract_push hi]
      exact ih (by omega)

end RowFilter
/-! ### Pixels in a row -/

theorem size_pushPixel (out : ByteArray) (p : Pixel) : (pushPixel out p).size = out.size + 4 := by
  simp [pushPixel, ByteArray.size_push]

/-- A pixel that is added leaves those before it alone. -/
theorem byte_pushPixel_left {out : ByteArray} (p : Pixel) {i : Nat} (h : i < out.size) :
    byte (pushPixel out p) i = byte out i := by
  simp only [pushPixel]
  rw [byte_push_left _ (by simp only [ByteArray.size_push]; omega),
    byte_push_left _ (by simp only [ByteArray.size_push]; omega),
    byte_push_left _ (by simp only [ByteArray.size_push]; omega), byte_push_left _ h]

theorem byte_pushPixel_self (out : ByteArray) (p : Pixel) (c : Nat) :
    byte (pushPixel out p) (out.size + c) = p.bytes.getD c 0 := by
  have hAppend : pushPixel out p = out ++ ofList p.bytes := by
    simp only [pushPixel, push_eq_append, ByteArray.append_assoc, ← ofList_append]
    rfl
  rw [hAppend, byte_append_right, byte_ofList]

/-- The first pixels of a row. -/
def firstPixels (image : Bitmap) (y n : Nat) : ByteArray :=
  (List.range n).foldl (fun out x => pushPixel out (image.pixel x y)) .empty

theorem firstPixels_succ (image : Bitmap) (y n : Nat) :
    firstPixels image y (n + 1) = pushPixel (firstPixels image y n) (image.pixel n y) := by
  simp [firstPixels, List.range_succ]

theorem size_firstPixels (image : Bitmap) (y n : Nat) : (firstPixels image y n).size = 4 * n := by
  induction n with
  | zero => rfl
  | succ n ih =>
      rw [firstPixels_succ, size_pushPixel, ih]
      omega

/-- The bytes of a pixel stand at four times its place in the row, by induction on the pixels. -/
theorem byte_firstPixels (image : Bitmap) (y : Nat) {n x c : Nat} (hx : x < n) (hc : c < 4) :
    byte (firstPixels image y n) (4 * x + c) = (image.pixel x y).bytes.getD c 0 := by
  induction n with
  | zero => omega
  | succ n ih =>
      rw [firstPixels_succ]
      by_cases hLast : x = n
      · rw [hLast, ← size_firstPixels image y n, byte_pushPixel_self]
      · rw [byte_pushPixel_left _ (by rw [size_firstPixels]; omega), ih (by omega)]

/-- A row takes four bytes for each pixel. -/
theorem size_rowBytes (image : Bitmap) (y : Nat) :
    (rowBytes image y).size = 4 * image.width.toNat :=
  size_firstPixels image y _

/-- Every byte of a row is one of its pixel. -/
theorem byte_rowBytes (image : Bitmap) (y : Nat) {x c : Nat} (hx : x < image.width.toNat)
    (hc : c < 4) : byte (rowBytes image y) (4 * x + c) = (image.pixel x y).bytes.getD c 0 :=
  byte_firstPixels image y hx hc

/-! ### All rows -/

/-- Rows are appended to what was written before. -/
theorem pushRows_eq_append (filter : Nat → RowFilter) (image : Bitmap) (count y : Nat)
    (above out : ByteArray) :
    pushRows filter image count y above out =
      out ++ pushRows filter image count y above .empty := by
  induction count generalizing y above out with
  | zero => rw [pushRows, pushRows, ByteArray.append_empty]
  | succ count ih =>
      rw [pushRows, pushRows, ih, ih _ _ (_ ++ _)]
      simp only [push_eq_append, ByteArray.empty_append, ByteArray.append_assoc]

/-- A row starts with the code of its filter. -/
theorem pushRows_succ (filter : Nat → RowFilter) (image : Bitmap) (count y : Nat)
    (above : ByteArray) :
    pushRows filter image (count + 1) y above .empty =
      ofList [(filter y).code] ++ ((filter y).apply 4 above (rowBytes image y) ++
        pushRows filter image count (y + 1) (rowBytes image y) .empty) := by
  rw [pushRows, pushRows_eq_append]
  simp only [push_eq_append, ByteArray.empty_append, ByteArray.append_assoc]

/-- Each row takes a byte more, for the code of its filter. -/
theorem size_pushRows (filter : Nat → RowFilter) (image : Bitmap) (count y : Nat)
    (above : ByteArray) :
    (pushRows filter image count y above .empty).size = count * (1 + 4 * image.width.toNat) := by
  induction count generalizing y above with
  | zero => simp [pushRows]
  | succ count ih =>
      simp only [pushRows_succ, ByteArray.size_append, size_ofList, RowFilter.size_apply,
        size_rowBytes, ih, List.length_singleton, Nat.succ_mul]
      omega

/-- The rows that were filtered and written are found again. -/
theorem unfilterRows_pushRows {filter : Nat → RowFilter} {image : Bitmap} {data : ByteArray}
    (count : Nat) {y start : Nat} {above : ByteArray} {rows : Array ByteArray}
    (h : Holds data start (pushRows filter image count y above .empty)) :
    unfilterRows data (4 * image.width.toNat) 4 count start above rows =
      .ok (rows ++ ((List.range' y count).map (rowBytes image)).toArray) := by
  -- The row above is the one that was written, since it has been found again before this one.
  induction count generalizing y start above rows with
  | zero => simp [unfilterRows]
  | succ count ih =>
      rw [pushRows_succ] at h
      have hCode : nat data start = (filter y).code.toNat := by
        rw [nat, ← Nat.add_zero start, h.left.byte_ofList_eq (by simp)]
        rfl
      have hRow : Holds data (start + 1) ((filter y).apply 4 above (rowBytes image y)) :=
        h.right.left
      have hRest := h.right.right
      rw [size_ofList, List.length_singleton, RowFilter.size_apply, size_rowBytes] at hRest
      have hUndo := (filter y).undo_apply (by omega) hRow (4 * image.width.toNat) (i := 0)
        (by rw [size_rowBytes]; omega)
      have hEmpty : (rowBytes image y).extract 0 0 = .empty := ByteArray.extract_same
      rw [hEmpty] at hUndo
      rw [unfilterRows, hCode, RowFilter.ofCode?_code]
      dsimp only
      rw [hUndo, ih hRest]
      simp [List.range'_succ]

end Iconsmith.Png
