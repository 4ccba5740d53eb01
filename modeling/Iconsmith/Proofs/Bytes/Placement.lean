import Mathlib.Algebra.Group.Nat.Defs
import Iconsmith.Bytes

/-! Where the parts of a file stand in it. A file is put together by appending,
and it is read by position; here the one is turned into the other. -/
namespace Iconsmith.Bytes

/-! ### Single bytes -/

/-- Appending leaves the bytes in front alone. -/
theorem byte_append_left {a b : ByteArray} {i : Nat} (h : i < a.size) :
    byte (a ++ b) i = byte a i := by
  have hAll : i < (a ++ b).size := by
    rw [ByteArray.size_append]
    omega
  rw [byte, byte, dif_pos hAll, dif_pos h, ByteArray.getElem_append_left h]

/-- What is appended starts where the front ends. -/
theorem byte_append_right (a b : ByteArray) (i : Nat) :
    byte (a ++ b) (a.size + i) = byte b i := by
  by_cases h : i < b.size
  · have hAll : a.size + i < (a ++ b).size := by
      rw [ByteArray.size_append]
      omega
    rw [byte, byte, dif_pos hAll, dif_pos h, ByteArray.getElem_append_right (Nat.le_add_right _ _)]
    simp
  · have hAll : ¬a.size + i < (a ++ b).size := by
      rw [ByteArray.size_append]
      omega
    rw [byte, byte, dif_neg hAll, dif_neg h]

theorem size_ofList (l : List UInt8) : (ofList l).size = l.length := by
  simp [ofList, ByteArray.size]

theorem ofList_append (l l' : List UInt8) : ofList (l ++ l') = ofList l ++ ofList l' := by
  apply ByteArray.ext
  simp [ofList]

/-- Behind the end of a list all bytes count as zero. -/
theorem byte_ofList (l : List UInt8) (i : Nat) : byte (ofList l) i = l.getD i 0 := by
  rw [List.getD_eq_getElem?_getD]
  by_cases h : i < l.length
  · have hSize : i < (ofList l).size := by rwa [size_ofList]
    rw [byte, dif_pos hSize, List.getElem?_eq_getElem h]
    rfl
  · have hSize : ¬i < (ofList l).size := by rwa [size_ofList]
    rw [byte, dif_neg hSize, List.getElem?_eq_none (Nat.le_of_not_lt h)]
    rfl

/-- To push a byte is to append it. -/
theorem push_eq_append (a : ByteArray) (v : UInt8) : a.push v = a ++ ofList [v] := by
  apply ByteArray.ext
  simp [ofList]

theorem byte_push_left {a : ByteArray} (v : UInt8) {i : Nat} (h : i < a.size) :
    byte (a.push v) i = byte a i := by
  rw [push_eq_append, byte_append_left h]

theorem byte_push_self (a : ByteArray) (v : UInt8) : byte (a.push v) a.size = v := by
  rw [push_eq_append, ← Nat.add_zero a.size, byte_append_right, byte_ofList]
  rfl

/-- Two rows of bytes are the same if their bytes are. -/
theorem ext_byte {a b : ByteArray} (hSize : a.size = b.size)
    (h : ∀ i, i < a.size → byte a i = byte b i) : a = b := by
  refine ByteArray.ext_getElem hSize fun i hi hi' => ?_
  have hByte := h i hi
  rwa [byte, byte, dif_pos hi, dif_pos hi'] at hByte

theorem size_extract_zero {a : ByteArray} {i : Nat} (h : i ≤ a.size) :
    (a.extract 0 i).size = i := by
  rw [ByteArray.size_extract]
  omega

/-- A beginning has the bytes of the whole. -/
theorem byte_extract_zero {a : ByteArray} {i j : Nat} (hi : i ≤ a.size) (hj : j < i) :
    byte (a.extract 0 i) j = byte a j := by
  have hPart : j < (a.extract 0 i).size := by rwa [size_extract_zero hi]
  rw [byte, byte, dif_pos hPart, dif_pos (Nat.lt_of_lt_of_le hj hi), ByteArray.getElem_extract]
  simp

/-- The first bytes with the next one behind them. -/
theorem extract_push {a : ByteArray} {i : Nat} (h : i < a.size) :
    (a.extract 0 i).push (byte a i) = a.extract 0 (i + 1) := by
  have hSize := size_extract_zero (Nat.le_of_lt h)
  refine ext_byte ?_ fun j hj => ?_
  · rw [ByteArray.size_push, hSize, size_extract_zero h]
  · rw [ByteArray.size_push, hSize] at hj
    rw [byte_extract_zero h hj]
    by_cases hSame : j = i
    · subst hSame
      have hSelf := byte_push_self (a.extract 0 j) (byte a j)
      rwa [hSize] at hSelf
    · rw [byte_push_left _ (by omega), byte_extract_zero (Nat.le_of_lt h) (by omega)]

/-- The bytes of a row as a list, although it is built from the front. -/
theorem toList_eq (b : ByteArray) : b.toList = b.data.toList := by
  have hLoop (i : Nat) (r : List UInt8) :
      ByteArray.toList.loop b i r = r.reverse ++ b.data.toList.drop i := by
    fun_induction ByteArray.toList.loop b i r with
    | case1 i r hThere ih =>
        have hIndex : i < b.data.toList.length := by simpa using hThere
        rw [ih, List.drop_eq_getElem_cons hIndex]
        simp [ByteArray.get!, hThere]
    | case2 i r hEnd =>
        rw [List.drop_eq_nil_of_le (by simpa using Nat.le_of_not_lt hEnd), List.append_nil]
  rw [ByteArray.toList, hLoop]
  rfl

theorem length_toList (b : ByteArray) : b.toList.length = b.size := by
  rw [toList_eq]
  exact Array.length_toList

/-- Listing the bytes of a list gives the list. -/
theorem toList_ofList (l : List UInt8) : (ofList l).toList = l := by
  rw [toList_eq]
  rfl

theorem ofList_data (b : ByteArray) : ofList b.data.toList = b := rfl

/-- A part of a file is a part of its list. -/
theorem extract_ofList (l : List UInt8) (i j : Nat) :
    (ofList l).extract i j = ofList ((l.take j).drop i) := by
  apply ByteArray.ext
  simp [ofList, List.drop_take]

/-- The bytes up to a position and those behind it. -/
theorem extract_split (a : ByteArray) {i j : Nat} (h : i ≤ j) :
    a.extract i j ++ a.extract j a.size = a.extract i a.size := by
  rw [ByteArray.extract_append_extract, Nat.min_eq_left h]
  apply ByteArray.ext
  apply Array.ext
  · simp only [ByteArray.data_extract, Array.size_extract, ByteArray.size_data]
    omega
  · intro k hk hk'
    simp

/-! ### Parts -/

/-- The bytes of `part` stand in `b` from position `i` on. -/
def Holds (b : ByteArray) (i : Nat) (part : ByteArray) : Prop :=
  ∃ front back, front.size = i ∧ b = front ++ part ++ back

namespace Holds

variable {b p q : ByteArray} {i : Nat}

theorem whole (b : ByteArray) : Holds b 0 b :=
  ⟨.empty, .empty, rfl, by simp⟩

/-- A file that holds two parts in a row holds the first at the same place. -/
theorem left (h : Holds b i (p ++ q)) : Holds b i p := by
  obtain ⟨front, back, hFront, rfl⟩ := h
  exact ⟨front, q ++ back, hFront, by simp [ByteArray.append_assoc]⟩

theorem right (h : Holds b i (p ++ q)) : Holds b (i + p.size) q := by
  obtain ⟨front, back, rfl, rfl⟩ := h
  exact ⟨front ++ p, back, ByteArray.size_append, by simp [ByteArray.append_assoc]⟩

/-- A part lies inside of the file. -/
theorem size_le (h : Holds b i p) : i + p.size ≤ b.size := by
  obtain ⟨front, back, rfl, rfl⟩ := h
  simp only [ByteArray.size_append]
  omega

/-- The bytes of a part are found at their places in the file. -/
theorem byte_eq (h : Holds b i p) {j : Nat} (hj : j < p.size) : byte b (i + j) = byte p j := by
  obtain ⟨front, back, rfl, rfl⟩ := h
  rw [ByteArray.append_assoc, byte_append_right, byte_append_left hj]

/-- Cutting out a part gives the part. -/
theorem slice_eq (h : Holds b i p) : slice b i p.size = p := by
  obtain ⟨front, back, rfl, rfl⟩ := h
  have hFront := @ByteArray.extract_append_size_add front (p ++ back) 0 p.size
  rw [slice, ByteArray.append_assoc]
  simpa [ByteArray.extract_append_eq_left] using hFront

theorem byte_ofList_eq {l : List UInt8} (h : Holds b i (ofList l)) {j : Nat} (hj : j < l.length) :
    byte b (i + j) = l.getD j 0 := by
  rw [h.byte_eq (by rwa [size_ofList]), byte_ofList]

/-- A mark that is held is found. -/
theorem hasAt_eq {l : List UInt8} (h : Holds b i (ofList l)) : hasAt b i l = true := by
  induction l generalizing i with
  | nil => rfl
  | cons e es ih =>
      have hSize := h.size_le
      rw [size_ofList, List.length_cons] at hSize
      have hHere : byte b i = e := h.byte_ofList_eq (j := 0) (by simp)
      rw [← List.singleton_append, ofList_append] at h
      have hRest : hasAt b (i + 1) es = true := ih h.right
      have hInside : i < b.size := by omega
      simp [hasAt, hHere, hRest, hInside]

/-- A number of 32 bits is read as it was put there. -/
theorem be32_eq {n : Nat} (hn : n < 2 ^ 32) (h : Holds b i (ofList (putBe32 n))) :
    be32 b i = n := by
  have hByte (j : Nat) (hj : j < 4) : byte b (i + j) = (putBe32 n).getD j 0 :=
    h.byte_ofList_eq hj
  have h0 := hByte 0 (by omega)
  have h1 := hByte 1 (by omega)
  have h2 := hByte 2 (by omega)
  have h3 := hByte 3 (by omega)
  simp only [Nat.add_zero] at h0
  simp [be32, be16, nat, h0, h1, h2, h3, putBe32, Nat.shiftRight_eq_div_pow]
  omega

theorem le16_eq {n : Nat} (hn : n < 2 ^ 16) (h : Holds b i (ofList (putLe16 n))) :
    le16 b i = n := by
  have hByte (j : Nat) (hj : j < 2) : byte b (i + j) = (putLe16 n).getD j 0 :=
    h.byte_ofList_eq hj
  have h0 := hByte 0 (by omega)
  have h1 := hByte 1 (by omega)
  simp only [Nat.add_zero] at h0
  simp [le16, nat, h0, h1, putLe16, Nat.shiftRight_eq_div_pow]
  omega

end Holds
end Iconsmith.Bytes
