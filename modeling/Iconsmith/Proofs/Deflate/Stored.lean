import Iconsmith.Deflate.Inflate
import Iconsmith.Deflate.Stored
import Iconsmith.Proofs.Bytes.Placement

/-! Stored blocks are expanded to the data that was stored. They start at bytes,
so that bits matter in the first byte of a block only. -/
namespace Iconsmith.Deflate

open Bytes

/-! ### Numbers at the start of a byte -/

namespace Cursor

/-- The bits of a byte come from the lowest to the highest. -/
theorem bitAt_byte (b : ByteArray) (i : Nat) {j : Nat} (h : j < 8) :
    bitAt b (8 * i + j) = nat b i / 2 ^ j % 2 := by
  rw [bitAt, show (8 * i + j) / 8 = i by omega, show (8 * i + j) % 8 = j by omega,
    Nat.shiftRight_eq_div_pow]

/-- Bits from inside of a byte on: the rest of the byte, and the bits of the bytes
behind it. -/
theorem number_inside (b : ByteArray) (i count : Nat) {k : Nat} (hk : k ≤ 8) :
    number b (8 * i + (8 - k)) (k + count) =
      nat b i / 2 ^ (8 - k) + 2 ^ k * number b (8 * (i + 1)) count := by
  have hByte : nat b i < 2 ^ 8 := (byte b i).toNat_lt
  induction k with
  | zero => rw [Nat.sub_zero, Nat.div_eq_of_lt hByte, Nat.zero_add, Nat.zero_add, Nat.pow_zero,
      Nat.one_mul, Nat.mul_succ]
  | succ k ih =>
      have hNext : 8 * i + (8 - (k + 1)) + 1 = 8 * i + (8 - k) := by omega
      have hPower : 2 ^ (8 - k) = 2 ^ (8 - (k + 1)) * 2 := by
        rw [← Nat.pow_succ]
        congr 1
        omega
      rw [Nat.add_right_comm, number, bitAt_byte b i (by omega), hNext, ih (by omega), hPower,
        ← Nat.div_div_eq_div_mul, Nat.pow_succ]
      have hSplit := Nat.div_add_mod (nat b i / 2 ^ (8 - (k + 1))) 2
      calc nat b i / 2 ^ (8 - (k + 1)) % 2 + 2 *
            (nat b i / 2 ^ (8 - (k + 1)) / 2 + 2 ^ k * number b (8 * (i + 1)) count)
          = (2 * (nat b i / 2 ^ (8 - (k + 1)) / 2) + nat b i / 2 ^ (8 - (k + 1)) % 2) +
            2 ^ k * 2 * number b (8 * (i + 1)) count := by
              rw [Nat.mul_add, Nat.mul_comm (2 ^ k) 2, Nat.mul_assoc]
              omega
        _ = _ := by rw [hSplit]

/-- A number goes on with the bits of the next byte above those of the first. -/
theorem number_byte (b : ByteArray) (i count : Nat) :
    number b (8 * i) (8 + count) = nat b i + 256 * number b (8 * (i + 1)) count := by
  have hWhole := number_inside b i count (Nat.le_refl 8)
  simpa using hWhole

theorem number_le16 (b : ByteArray) (i : Nat) : number b (8 * i) 16 = le16 b i := by
  rw [show 16 = 8 + (8 + 0) from rfl, number_byte, number_byte, number, le16]
  omega

/-- The three bits in front of a block, at the start of a byte. -/
theorem number_blockStart (b : ByteArray) (i : Nat) :
    number b (8 * i) 1 = nat b i % 2 ∧ number b (8 * i + 1) 2 = nat b i / 2 % 4 := by
  have h0 := bitAt_byte b i (j := 0) (by omega)
  have h1 := bitAt_byte b i (j := 1) (by omega)
  have h2 := bitAt_byte b i (j := 2) (by omega)
  simp only [number, Nat.add_zero, Nat.add_assoc, Nat.reduceAdd, Nat.reducePow] at h0 h1 h2 ⊢
  omega

end Cursor

/-! ### Blocks -/

/-- A block takes five bytes more than its data. -/
theorem size_storedBlock (last : Bool) (data : ByteArray) :
    (storedBlock last data).size = 5 + data.size := by
  simp only [storedBlock, putLe16, ByteArray.size_append, size_ofList, List.length_append,
    List.length_cons, List.length_nil]

/-- What stands where in a stored block. -/
structure BlockAt (b data : ByteArray) (i : Nat) (last : Bool) : Prop where
  size_le : i + 5 + data.size ≤ b.size
  small : data.size ≤ maxStored
  start_eq : nat b i = if last then 1 else 0
  length_eq : le16 b (i + 1) = data.size
  inverse_eq : le16 b (i + 3) = 65535 - data.size
  slice_eq : slice b (i + 5) data.size = data

/-- Where a file holds a stored block, it has the parts of the block in their places. -/
theorem blockAt {b data : ByteArray} {i : Nat} {last : Bool} (hData : data.size ≤ maxStored)
    (h : Holds b i (storedBlock last data)) : BlockAt b data i last := by
  have hSize := h.size_le
  rw [size_storedBlock] at hSize
  rw [storedBlock, ofList_append, ← List.singleton_append, ofList_append] at h
  have hNumber : data.size < 2 ^ 16 := Nat.lt_succ_of_le hData
  refine ⟨by omega, hData, ?_, h.left.left.right.le16_eq hNumber, h.left.right.le16_eq (by omega),
    h.right.slice_eq⟩
  rw [nat, ← Nat.add_zero i, h.left.left.left.byte_ofList_eq (by simp)]
  cases last <;> rfl

/-- The bytes behind the three bits of a stored block. -/
theorem readStored_block {b out data : ByteArray} {i : Nat} {last : Bool}
    (h : BlockAt b data i last) :
    readStored out ⟨b, 8 * i + 3⟩ = .ok (out ++ data, ⟨b, 8 * (i + (5 + data.size))⟩) := by
  have hSize := h.size_le
  have hAlign : (8 * i + 3 + 7) / 8 * 8 = 8 * (i + 1) := by omega
  have hLengthEnd : 8 * (i + 1) + 16 = 8 * (i + 3) := by omega
  have hInverseEnd : 8 * (i + 3) + 16 = 8 * (i + 5) := by omega
  have hLength : ¬8 * b.size - 8 * (i + 1) < 16 := by omega
  have hInverse : ¬8 * b.size - 8 * (i + 3) < 16 := by omega
  have hContent : ¬8 * b.size - 8 * (i + 5) < 8 * data.size := by omega
  have hStart : 8 * (i + 5) / 8 = i + 5 := by omega
  have hStop : 8 * (i + 5) + 8 * data.size = 8 * (i + (5 + data.size)) := by omega
  have hSum : data.size + (65535 - data.size) = 65535 := by
    have hData := h.small
    rw [maxStored] at hData
    omega
  simp only [readStored, Cursor.align, Cursor.take, Cursor.left, hAlign, hLengthEnd, hInverseEnd,
    if_neg hLength, if_neg hInverse, Cursor.number_le16, h.length_eq, h.inverse_eq, bind,
    Except.bind, hSum, if_neg hContent, hStart, h.slice_eq, hStop]
  rfl

/-- One step of the loop over blocks. -/
theorem readBlocks_block {b out data : ByteArray} {i : Nat} {last : Bool} (steps : Nat)
    (h : BlockAt b data i last) :
    readBlocks (steps + 1) out ⟨b, 8 * i⟩ =
      if last then .ok (out ++ data, ⟨b, 8 * (i + (5 + data.size))⟩)
      else readBlocks steps (out ++ data) ⟨b, 8 * (i + (5 + data.size))⟩ := by
  have hSize := h.size_le
  obtain ⟨hLast, hKind⟩ := Cursor.number_blockStart b i
  have hFirst : ¬8 * b.size - 8 * i < 1 := by omega
  have hSecond : ¬8 * b.size - (8 * i + 1) < 2 := by omega
  simp only [readBlocks, Cursor.take, Cursor.left, if_neg hFirst, if_neg hSecond, hLast, hKind,
    bind, Except.bind, Nat.add_assoc, Nat.reduceAdd]
  cases last <;> simp [h.start_eq, readStored_block h, pure, Except.pure]

theorem size_extract_le {data : ByteArray} {start stop : Nat}
    (h : min stop data.size ≤ start + maxStored) : (data.extract start stop).size ≤ maxStored := by
  rw [ByteArray.size_extract]
  omega

/-- The last block ends the loop. -/
theorem readBlocks_last {b data out : ByteArray} {i steps : Nat} (hData : data.size ≤ maxStored)
    (hSteps : 0 < steps) (h : Holds b i (storedBlock true data)) :
    readBlocks steps out ⟨b, 8 * i⟩ =
      .ok (out ++ data, ⟨b, 8 * (i + (storedBlock true data).size)⟩) := by
  cases steps with
  | zero => exact absurd hSteps (Nat.lt_irrefl 0)
  | succ steps =>
      rw [readBlocks_block steps (blockAt hData h), size_storedBlock]
      rfl

/-- Data in stored blocks is expanded to itself. -/
theorem readBlocks_storedBlocks {b data : ByteArray} (count : Nat) {out : ByteArray}
    {start i steps : Nat} (hCount : data.size ≤ start + (count + 1) * maxStored)
    (hSteps : (storedBlocks data start count).size < steps)
    (h : Holds b i (storedBlocks data start count)) :
    readBlocks steps out ⟨b, 8 * i⟩ =
      .ok (out ++ data.extract start data.size,
        ⟨b, 8 * (i + (storedBlocks data start count).size)⟩) := by
  -- On the number of further blocks: each one takes a step and leaves the others at its end.
  induction count generalizing out start i steps with
  | zero => exact readBlocks_last (size_extract_le (by omega)) (by omega) h
  | succ count ih =>
      rw [storedBlocks] at hSteps h ⊢
      split at hSteps
      · next hEnd =>
        rw [if_pos hEnd] at h ⊢
        exact readBlocks_last (size_extract_le (by omega)) (by omega) h
      · next hEnd =>
        rw [if_neg hEnd] at h ⊢
        rw [ByteArray.size_append, size_storedBlock] at hSteps
        have hData := size_extract_le (Nat.min_le_left (start + maxStored) data.size)
        have hRest := h.right
        rw [size_storedBlock] at hRest
        cases steps with
        | zero => omega
        | succ steps =>
            rw [readBlocks_block steps (blockAt hData h.left)]
            simp only [Bool.false_eq_true, if_false]
            rw [ih (by rw [Nat.succ_mul] at hCount; omega) (by omega) hRest, ByteArray.append_assoc,
              extract_split data (Nat.le_add_right _ _), ByteArray.size_append, size_storedBlock,
              Nat.add_assoc]

/-- A stream of stored blocks holds the data that was stored. -/
theorem inflate_store (data : ByteArray) : inflate (store data) = .ok data := by
  have hWhole : Holds (store data) 0 (ofList [0x78, 0x01] ++
      storedBlocks data 0 (data.size / maxStored) ++
      ofList (putBe32 (Checksum.adler data))) := Holds.whole (store data)
  have hSize : (store data).size = 2 + (storedBlocks data 0 (data.size / maxStored)).size + 4 := by
    simp only [store, ByteArray.size_append, size_ofList]
    rfl
  -- Two bytes of header, the blocks, and the sum that is compared with the expanded data.
  have hMethod : nat (store data) 0 = 0x78 := by
    rw [nat, hWhole.left.left.byte_ofList_eq (j := 0) (by simp)]
    rfl
  have hFlags : nat (store data) 1 = 0x01 := by
    rw [nat, hWhole.left.left.byte_ofList_eq (j := 1) (by simp)]
    rfl
  have hCount : data.size ≤ 0 + (data.size / maxStored + 1) * maxStored := by
    rw [maxStored]
    omega
  have hSteps : (storedBlocks data 0 (data.size / maxStored)).size <
      Cursor.left ⟨store data, 8 * 2⟩ + 1 := by
    rw [show Cursor.left ⟨store data, 8 * 2⟩ = 8 * (store data).size - 16 from rfl]
    omega
  have hStored : Holds (store data) 2 (storedBlocks data 0 (data.size / maxStored)) :=
    hWhole.left.right
  have hBlocks := @readBlocks_storedBlocks _ _ _ .empty _ _ _ hCount hSteps hStored
  rw [ByteArray.empty_append, ByteArray.extract_zero_size] at hBlocks
  have hRaw : inflateRaw (store data) 2 =
      .ok (data, 2 + (storedBlocks data 0 (data.size / maxStored)).size) := by
    simp only [inflateRaw, hBlocks, bind, Except.bind, Cursor.align, pure, Except.pure]
    congr 2
    omega
  have hLong : ¬(store data).size < 2 := by omega
  have hChecked : ¬(store data).size < 2 + (storedBlocks data 0 (data.size / maxStored)).size + 4 := by
    omega
  simp only [inflate, if_neg hLong, hMethod, hFlags, hRaw, bind, Except.bind, if_neg hChecked]
  rfl

end Iconsmith.Deflate
