import Iconsmith.Png.Decoder
import Iconsmith.Png.Encoder
import Iconsmith.Proofs.Bytes.Placement

/-! Chunks that were written are found, whole and with the right check, and so
are the header and the packed data of an image. -/
namespace Iconsmith.Png

open Bytes Codec

/-! ### One chunk -/

/-- A chunk that stands at a position of a file, as the reader finds it. -/
structure Intact (b : ByteArray) (pos : Nat) (c : Chunk) (data : ByteArray) : Prop where
  read_eq : Chunk.read b pos = .ok c
  stop_eq : c.stop = pos + 12 + c.length
  isWhole : c.isWhole b = true
  checks : c.checks b = true
  content_eq : c.content b = data

/-- A chunk has a length, a kind and a check around its data, four bytes each. -/
theorem size_chunk {kind : Kind} (hKind : kind.length = 4) (data : ByteArray) :
    (chunk kind data).size = 12 + data.size := by
  simp only [chunk, ByteArray.size_append, size_ofList, hKind, putBe32, List.length_cons,
    List.length_nil]
  omega

/-- The data of a chunk stands behind its length and its kind. -/
theorem holds_data {b : ByteArray} {pos : Nat} {kind : Kind} {data : ByteArray}
    (hKind : kind.length = 4) (h : Holds b pos (chunk kind data)) : Holds b (pos + 8) data := by
  have hRight := h.left.right.right
  rwa [size_ofList, size_ofList, hKind] at hRight

/-- What was written as a chunk is read as that chunk. -/
theorem intact_chunk {b : ByteArray} {pos : Nat} {kind : Kind} {data : ByteArray}
    (hKind : kind.length = 4) (hData : data.size < 2 ^ 32) (h : Holds b pos (chunk kind data)) :
    Intact b pos ⟨kind, pos + 8, data.size⟩ data := by
  have hEnd := h.size_le
  rw [size_chunk hKind] at hEnd
  have hLength := h.left.left.be32_eq hData
  have hBody : Holds b (pos + 4) (ofList kind ++ data) := h.left.right
  have hContent := holds_data hKind h
  have hBodySize : (ofList kind ++ data).size = data.size + 4 := by
    rw [ByteArray.size_append, size_ofList, hKind, Nat.add_comm]
  have hBodySlice : slice b (pos + 4) (data.size + 4) = ofList kind ++ data := by
    rw [← hBodySize, hBody.slice_eq]
  have hCheck : Holds b (pos + 8 + data.size)
      (ofList (putBe32 (Checksum.crc (ofList kind ++ data)).toNat)) := by
    have hRight := h.right
    rw [ByteArray.size_append, hBodySize, size_ofList] at hRight
    rwa [show pos + 8 + data.size = pos + (4 + (data.size + 4)) by omega]
  refine ⟨?_, ?_, ?_, ?_, hContent.slice_eq⟩
  · have hLetter (j : Nat) (hj : j < 4) : byte b (pos + 4 + j) = kind.getD j 0 :=
      hBody.left.byte_ofList_eq (hKind ▸ hj)
    have hKindEq : [byte b (pos + 4), byte b (pos + 5), byte b (pos + 6), byte b (pos + 7)] =
        kind := by
      rw [show pos + 4 = pos + 4 + 0 from rfl, hLetter 0 (by omega), hLetter 1 (by omega),
        hLetter 2 (by omega), hLetter 3 (by omega)]
      match kind, hKind with
      | [_, _, _, _], _ => rfl
    rw [Chunk.read, if_neg (by omega), hKindEq, hLength]
  · simp only [Chunk.stop]
    omega
  · refine decide_eq_true ?_
    simp only [Chunk.stop]
    omega
  · rw [Chunk.checks, Chunk.storedCheck, Chunk.computedCheck, hCheck.be32_eq (UInt32.toNat_lt _),
      show pos + 8 - 4 = pos + 4 by omega, hBodySlice, beq_self_eq_true]

/-! ### The header -/

/-- The header of the files that are written. -/
def writtenHeader (size : Size) : Header := ⟨size.width, size.height, 8, .rgba, false⟩

theorem rowBytes_writtenHeader (size : Size) (width : Nat) :
    (writtenHeader size).rowBytes width = 4 * width := by
  simp only [writtenHeader, Header.rowBytes, Header.pixelBits, ColourKind.channels]
  omega

theorem size_headerData (size : Size) : (headerData size).size = Header.length := by
  rw [headerData, size_ofList]
  rfl

/-- The header of an image with pixels is read as it was written. -/
theorem read_headerData {b : ByteArray} {pos : Nat} {size : Size} (hWidth : size.width ≠ 0)
    (hHeight : size.height ≠ 0) (h : Holds b pos (headerData size)) :
    Header.read b pos = .ok (writtenHeader size) := by
  rw [headerData, ofList_append, ofList_append] at h
  have hReadWidth := h.left.left.be32_eq size.width.toNat_lt
  have hReadHeight : be32 b (pos + 4) = size.height.toNat := h.left.right.be32_eq size.height.toNat_lt
  have hFields : Holds b (pos + 8) (ofList [8, 6, 0, 0, 0]) := h.right
  have hField (j : Nat) (hj : j < 5) :
      nat b (pos + (8 + j)) = (([8, 6, 0, 0, 0] : List UInt8).getD j 0).toNat := by
    rw [nat, ← Nat.add_assoc, hFields.byte_ofList_eq hj]
  have hSides : ¬(size.width.toNat = 0 ∨ size.height.toNat = 0) := by
    rintro (hZero | hZero)
    · exact hWidth (UInt32.toNat_inj.mp hZero)
    · exact hHeight (UInt32.toNat_inj.mp hZero)
  have hDepth : nat b (pos + 8) = 8 := hField 0 (by omega)
  have hKind : nat b (pos + 9) = 6 := hField 1 (by omega)
  have hPacking : nat b (pos + 10) = 0 := hField 2 (by omega)
  have hFiltering : nat b (pos + 11) = 0 := hField 3 (by omega)
  have hInterlace : nat b (pos + 12) = 0 := hField 4 (by omega)
  simp only [Header.read, hReadWidth, hReadHeight, if_neg hSides, hDepth, hKind, hPacking,
    hFiltering, hInterlace]
  simp [ColourKind.ofCode?, ColourKind.allows, writtenHeader]
  rfl

/-- It is found behind the signature of a file. -/
theorem ofFile_of_holds {b : ByteArray} {size : Size} (hWidth : size.width ≠ 0)
    (hHeight : size.height ≠ 0)
    (h : Holds b 0 (ofList signature ++ chunk Kind.header (headerData size))) :
    Header.ofFile b = .ok (writtenHeader size) := by
  have hSignature := h.left
  have hStart : Holds b 0 (ofList (signature.take 4)) := by
    rw [show signature = signature.take 4 ++ signature.drop 4 from rfl, ofList_append] at hSignature
    exact hSignature.left
  have hChunk : Holds b 8 (chunk Kind.header (headerData size)) := h.right
  have hIntact := intact_chunk rfl (by rw [size_headerData]; decide) hChunk
  rw [size_headerData] at hIntact
  have hData : Holds b 16 (headerData size) := (holds_data rfl hChunk)
  have hSize := h.size_le
  rw [ByteArray.size_append, size_ofList, size_chunk rfl, size_headerData] at hSize
  have hLong : ¬b.size < 8 := by
    simp only [signature, List.length_cons, List.length_nil] at hSize
    omega
  have hNotShort : ¬b.size < 4 := by omega
  simp only [Header.ofFile, hStart.hasAt_eq, hSignature.hasAt_eq, if_neg hLong, if_neg hNotShort]
  simp [hIntact.read_eq, hIntact.isWhole, hIntact.checks, bind, Except.bind,
    read_headerData hWidth hHeight hData]

/-! ### Image data -/

/-- The chunk at the end stops the reader. -/
theorem gatherData_imageEnd {b acc : ByteArray} {pos fuel : Nat} (hFuel : 0 < fuel)
    (h : Holds b pos (chunk Kind.imageEnd .empty)) : gatherData b fuel pos acc = (acc, none) := by
  cases fuel with
  | zero => exact absurd hFuel (Nat.lt_irrefl 0)
  | succ fuel =>
      have hIntact := intact_chunk rfl (by decide) h
      simp only [gatherData, hIntact.read_eq]
      rw [if_pos (by decide)]

/-- A chunk of data is added to what was gathered before. -/
theorem gatherData_data {b data acc : ByteArray} {pos fuel : Nat} (hData : data.size < 2 ^ 32)
    (h : Holds b pos (chunk Kind.data data)) :
    gatherData b (fuel + 1) pos acc =
      gatherData b fuel (pos + (chunk Kind.data data).size) (acc ++ data) := by
  have hIntact := intact_chunk rfl hData h
  simp only [gatherData, hIntact.read_eq, hIntact.content_eq, hIntact.isWhole, hIntact.checks,
    hIntact.stop_eq, @size_chunk Kind.data rfl, Nat.add_assoc]
  simp

/-- Data that was split into chunks is put together again. -/
theorem gatherData_dataChunks {b packed : ByteArray} (steps : Nat) {start pos fuel : Nat}
    {acc : ByteArray}
    (h : Holds b pos (dataChunks packed steps start ++ chunk Kind.imageEnd .empty))
    (hSteps : packed.size ≤ start + steps * maxChunk)
    (hFuel : (dataChunks packed steps start).size < fuel) :
    gatherData b fuel pos acc = (acc ++ packed.extract start packed.size, none) := by
  -- On the chunks that may follow; each one moves a part of the data from the file to `acc`.
  induction steps generalizing start pos fuel acc with
  | zero =>
      have hNone : packed.extract start packed.size = .empty := by
        rw [ByteArray.extract_eq_empty_iff]
        omega
      rw [dataChunks, ByteArray.empty_append] at h
      rw [gatherData_imageEnd (by omega) h, hNone, ByteArray.append_empty]
  | succ steps ih =>
      by_cases hEnd : packed.size ≤ start
      · have hNone : packed.extract start packed.size = .empty := by
          rw [ByteArray.extract_eq_empty_iff]
          omega
        rw [dataChunks, if_pos hEnd, ByteArray.empty_append] at h
        rw [gatherData_imageEnd (by omega) h, hNone, ByteArray.append_empty]
      · rw [dataChunks, if_neg hEnd, ByteArray.append_assoc] at h
        rw [dataChunks, if_neg hEnd, ByteArray.size_append, size_chunk rfl] at hFuel
        have hData : (packed.extract start (start + maxChunk)).size < 2 ^ 32 := by
          rw [ByteArray.size_extract, maxChunk]
          omega
        cases fuel with
        | zero => omega
        | succ fuel =>
            rw [gatherData_data hData h.left, ih h.right (by rw [Nat.succ_mul] at hSteps; omega) (by omega),
              ByteArray.append_assoc, extract_split packed (Nat.le_add_right _ _)]

/-! ### A file as a whole -/

/-- The parts of a file that was written, in order. -/
structure Parts (b packed : ByteArray) (size : Size) : Prop where
  start : Holds b 0 (ofList signature ++ chunk Kind.header (headerData size))
  rest : Holds b Header.stop
    (dataChunks packed (packed.size / maxChunk + 1) 0 ++ chunk Kind.imageEnd .empty)

/-- An encoded image is made of these parts. -/
theorem parts_encode (image : Bitmap) (choices : Choices) :
    Parts (encode image choices) (choices.pack (rowData (choices.filter image) image))
      image.size := by
  have hWhole := Holds.whole (encode image choices)
  rw [encode, ByteArray.append_assoc] at hWhole
  rw [encode, ByteArray.append_assoc]
  have hRest := hWhole.right
  rw [ByteArray.size_append, size_ofList, size_chunk rfl, size_headerData] at hRest
  exact ⟨hWhole.left, hRest⟩

namespace Parts

variable {b packed : ByteArray} {size : Size} (h : Parts b packed size)

include h

theorem size_lt : (dataChunks packed (packed.size / maxChunk + 1) 0).size < b.size := by
  have hSize := h.rest.size_le
  rw [ByteArray.size_append, size_chunk rfl] at hSize
  omega

/-- All data is gathered, and nothing goes wrong behind it. -/
theorem gatherData_eq : gatherData b b.size Header.stop .empty = (packed, none) := by
  have hSteps : packed.size ≤ 0 + (packed.size / maxChunk + 1) * maxChunk := by
    rw [maxChunk]
    omega
  rw [gatherData_dataChunks _ h.rest hSteps h.size_lt, ByteArray.empty_append,
    ByteArray.extract_zero_size]

/-- The first chunk behind the header holds data, so that there is nothing else to
know about the colours. -/
theorem preambleWithin_eq (hWidth : size.width ≠ 0) (hHeight : size.height ≠ 0)
    (hPacked : 0 < packed.size) (room : Nat) :
    preambleWithin room b =
      if room < 4 * size.width.toNat then .error .memory
      else .ok ⟨writtenHeader size, none, none, Header.stop⟩ := by
  have hPos := h.size_lt
  have hRest := h.rest
  rw [dataChunks, if_neg (by omega), ByteArray.append_assoc] at hRest
  have hData : (packed.extract 0 (0 + maxChunk)).size < 2 ^ 32 := by
    rw [ByteArray.size_extract, maxChunk]
    omega
  have hFirst := (intact_chunk rfl hData hRest.left).read_eq
  have hPreamble (p : Preamble) :
      readPreamble b b.size p Header.stop = .ok { p with dataAt := Header.stop } := by
    obtain ⟨steps, hSteps⟩ := Nat.exists_eq_succ_of_ne_zero (Nat.ne_of_gt (Nat.zero_lt_of_lt hPos))
    rw [hSteps, readPreamble, hFirst]
    rfl
  have hHeader := ofFile_of_holds hWidth hHeight h.start
  rw [preambleWithin, hHeader]
  simp only [bind, Except.bind, checkRoom, hPreamble]
  rw [show (writtenHeader size).width = size.width from rfl, rowBytes_writtenHeader]
  by_cases hRoom : room < 4 * size.width.toNat
  · rw [if_pos hRoom, if_pos hRoom]
  · rw [if_neg hRoom, if_neg hRoom]

end Parts
end Iconsmith.Png
