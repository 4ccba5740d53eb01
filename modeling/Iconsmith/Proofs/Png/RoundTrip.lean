import Iconsmith.Proofs.Bitmap.Pixels
import Iconsmith.Proofs.Deflate.Stored
import Iconsmith.Proofs.Png.Chunks
import Iconsmith.Proofs.Png.Rows
import Iconsmith.Proofs.World.Observation

/-! Reading back an image that was written. It is found again whichever filters
were chosen for its rows and however they were packed, as long as packing can
be undone. -/
namespace Iconsmith

namespace Png

open Bytes

variable {image : Bitmap}

/-- There is no data in nothing. -/
theorem inflate_pos {packed data : ByteArray} (h : Deflate.inflate packed = .ok data) :
    0 < packed.size := by
  refine Nat.pos_of_ne_zero fun hEmpty => ?_
  simp [Deflate.inflate, hEmpty, bind, Except.bind] at h

/-- The rows of an image as its file holds them. -/
def imageRows (image : Bitmap) : Array ByteArray :=
  ((List.range image.height.toNat).map (rowBytes image)).toArray

theorem columns_whole (size : Size) :
    Pass.whole.columns (writtenHeader size) = size.width.toNat := by
  simp [Pass.whole, Pass.columns, Pass.count, writtenHeader]

theorem rows_whole {size : Size} (hWidth : size.width ≠ 0) :
    Pass.whole.rows (writtenHeader size) = size.height.toNat := by
  have hColumns : ¬size.width.toNat = 0 := fun hZero => hWidth (UInt32.toNat_inj.mp hZero)
  rw [Pass.rows, columns_whole, if_neg hColumns]
  simp [Pass.whole, Pass.count, writtenHeader]

/-- A row takes four bytes for each pixel and one for its filter. -/
theorem bytes_whole {size : Size} (hWidth : size.width ≠ 0) :
    Pass.whole.bytes (writtenHeader size) =
      size.height.toNat * (1 + 4 * size.width.toNat) := by
  rw [Pass.bytes, rows_whole hWidth, columns_whole, rowBytes_writtenHeader]

/-- Taking the filters back leaves the rows of the image, whichever filters they are. -/
theorem unfilterPasses_rowData (filter : Nat → RowFilter) (hWidth : image.size.width ≠ 0) :
    unfilterPasses (writtenHeader image.size) (rowData filter image)
      (passes (writtenHeader image.size)) 0 = .ok [(Pass.whole, imageRows image)] := by
  have hRows : unfilterRows (rowData filter image) (4 * image.size.width.toNat) 4
      image.size.height.toNat 0 .empty #[] = .ok (imageRows image) := by
    have hAll := @unfilterRows_pushRows filter image (rowData filter image) image.height.toNat 0 0
      .empty #[] (Holds.whole _)
    rwa [Array.empty_append, ← List.range_eq_range'] at hAll
  have hPasses : passes (writtenHeader image.size) = [Pass.whole] := rfl
  have hStep : max 1 ((writtenHeader image.size).pixelBits / 8) = 4 := by
    simp [writtenHeader, Header.pixelBits, ColourKind.channels]
  rw [hPasses]
  simp only [unfilterPasses, columns_whole, rows_whole hWidth, rowBytes_writtenHeader, hStep, hRows]
  rfl

/-- The pixels of a row that was written. -/
theorem pixelOf_rowBytes (narrow : Nat → UInt8) {p : Preamble}
    (hHeader : p.header = writtenHeader image.size) (y : Nat) {x : Nat}
    (hx : x < image.width.toNat) : pixelOf narrow p (rowBytes image y) x = image.pixel x y := by
  have hByte (c : Nat) (hc : c < 4) :
      nat (rowBytes image y) (4 * x + c) = ((image.pixel x y).bytes.getD c 0).toNat := by
    rw [nat, byte_rowBytes image y hx hc]
  simp only [pixelOf, hHeader, writtenHeader, ColourKind.channels, sample, hByte 0 (by omega),
    hByte 1 (by omega), hByte 2 (by omega), hByte 3 (by omega)]
  simp [Pixel.bytes]

/-- The rows of an image are put together to the image. -/
theorem assemble_imageRows (narrow : Nat → UInt8) {p : Preamble}
    (hHeader : p.header = writtenHeader image.size) :
    assemble narrow p [(Pass.whole, imageRows image)] = image := by
  have hWhole : assemble narrow p [(Pass.whole, imageRows image)] =
      .ofFn image.width image.height fun x y =>
        pixelOf narrow p (((imageRows image)[y]?).getD .empty) x := by
    rw [assemble, hHeader]
    rfl
  rw [hWhole]
  refine Eq.trans (Bitmap.ofFn_congr fun x y hx hy => ?_) image.ofFn_pixel
  have hRow : (imageRows image)[y]? = some (rowBytes image y) := by
    simp [imageRows, hy]
  rw [hRow]
  exact pixelOf_rowBytes narrow hHeader y hx

/-- The only pass of a written image takes up all of its rows. -/
theorem bytes_passes_writtenHeader (filter : Nat → RowFilter) (hWidth : image.size.width ≠ 0) :
    (passes (writtenHeader image.size)).foldl
      (fun n pass => n + pass.bytes (writtenHeader image.size)) 0 =
        (rowData filter image).size := by
  have hData : (rowData filter image).size =
      image.size.height.toNat * (1 + 4 * image.size.width.toNat) := size_pushRows _ _ _ _ _
  rw [hData, show passes (writtenHeader image.size) = [Pass.whole] from rfl]
  simp [bytes_whole hWidth]

/-- What is packed comes out again as it was. This is all that a reader needs to know of a
writer. -/
def Choices.Lossless (choices : Choices) : Prop :=
  ∀ data, Deflate.inflate (choices.pack data) = .ok data

/-- Stored blocks lose nothing. -/
theorem Choices.lossless_plain : Choices.plain.Lossless := Deflate.inflate_store

/-- What was written is read as it was, by every reader that has room for it. -/
theorem decodeWithin_encode {choices : Choices} (hLossless : choices.Lossless)
    (hWidth : image.size.width ≠ 0) (hHeight : image.size.height ≠ 0) (narrow : Nat → UInt8)
    (room : Nat) :
    decodeWithin room narrow (encode image choices) =
      if room < 4 * image.area then .error .memory
      else .ok ⟨⟨writtenHeader image.size, none, none, Header.stop⟩, image⟩ := by
  have hParts := parts_encode image choices
  have hPacked := hLossless (rowData (choices.filter image) image)
  have hPreamble := hParts.preambleWithin_eq hWidth hHeight (inflate_pos hPacked) room
  have hNeeded := bytes_passes_writtenHeader (choices.filter image) hWidth
  have hRow : 4 * image.size.width.toNat ≤ 4 * image.area := by
    have hPos : 0 < image.height.toNat :=
      Nat.pos_of_ne_zero fun hZero => hHeight (UInt32.toNat_inj.mp hZero)
    exact Nat.mul_le_mul_left 4 (Nat.le_mul_of_pos_right _ hPos)
  rw [decodeWithin, hPreamble]
  -- Room is asked for a row first and for the image afterwards, which is never smaller.
  by_cases hNarrow : room < 4 * image.size.width.toNat
  · rw [if_pos hNarrow, if_pos (by omega)]
    rfl
  rw [if_neg hNarrow]
  have hKind : (writtenHeader image.size).kind ≠ .indexed := nofun
  have hBytes : (writtenHeader image.size).width.toNat * (writtenHeader image.size).height.toNat *
      Preamble.channels ⟨writtenHeader image.size, none, none, Header.stop⟩ *
      (if (writtenHeader image.size).depth = 16 then 2 else 1) = 4 * image.area :=
    (Nat.mul_one _).trans (Nat.mul_comm _ 4)
  simp only [bind, Except.bind, hBytes, Codec.checkRoom]
  by_cases hRoom : room < 4 * image.area
  · rw [if_pos hRoom, if_pos hRoom]
  · rw [if_neg hRoom, if_neg hRoom]
    simp only [hKind, false_and, if_false, hParts.gatherData_eq, hPacked, pure, Except.pure,
      hNeeded, Nat.lt_irrefl, unfilterPasses_rowData (choices.filter image) hWidth]
    rw [assemble_imageRows narrow rfl]

/-- Two images that are written alike are the same. -/
theorem encode_injective {choices : Choices} (hLossless : choices.Lossless) {a b : Bitmap}
    (ha : a.width ≠ 0 ∧ a.height ≠ 0) (hb : b.width ≠ 0 ∧ b.height ≠ 0)
    (h : encode a choices = encode b choices) : a = b := by
  have hRead {image : Bitmap} (hSides : image.width ≠ 0 ∧ image.height ≠ 0)
      (hRoom : 4 * image.area ≤ 4 * a.area + 4 * b.area) :
      (decodeWithin (4 * a.area + 4 * b.area) Codec.byteOf16 (encode image choices)).map
        Image.bitmap = .ok image := by
    rw [decodeWithin_encode hLossless hSides.1 hSides.2, if_neg (Nat.not_lt.mpr hRoom)]
    rfl
  have hFirst := hRead ha (Nat.le_add_right _ _)
  rw [h, hRead hb (Nat.le_add_left _ _)] at hFirst
  exact (Except.ok.inj hFirst).symm

end Png

/-- Saving loses nothing. Whatever the file held before, afterwards every reader with
room for four bytes a pixel finds the sides and the pixels of the image in it,
also the colours that cannot be seen; one with less room refuses it for that
reason. Filters and packing are up to the writer. -/
theorem Saving.savePng_lossless {choices : Png.Choices} (hLossless : choices.Lossless)
    {image : Bitmap} {path : String} {w w' : World}
    (hWidth : image.width ≠ 0) (hHeight : image.height ≠ 0)
    (hSaved : (savePng image path choices).perform w = (.done (), w')) :
    ∃ content, w'.files.read path = .ok content ∧ ∀ narrow room,
      if 4 * image.area ≤ room then
        ∃ decoded, Png.decodeWithin room narrow content = .ok decoded ∧
          decoded.bitmap = image ∧ decoded.colourName = "Rgba8"
      else Png.decodeWithin room narrow content = .error .memory := by
  refine ⟨_, read_of_savePng hSaved, fun narrow room => ?_⟩
  rw [Png.decodeWithin_encode hLossless hWidth hHeight]
  split
  · next hRoom => exact ⟨_, if_neg (Nat.not_lt.mpr hRoom), rfl, rfl⟩
  · next hRoom => exact if_pos (Nat.lt_of_not_le hRoom)

/-- Two pixels of which one is clear but not black, saved without compression over
a file that holds something longer. -/
theorem Saving.savePng_lossless_overwriting :
    let image : Bitmap := .ofFn 2 1 fun x _ => if x = 0 then ⟨1, 2, 3, 0⟩ else ⟨4, 5, 6, 7⟩
    let w : World := ⟨⟨[(["work", "a.png"], .file ⟨Array.replicate 1000 0xFF⟩),
      (["work"], .directory)], ["work"]⟩, []⟩
    ∃ w' content, (savePng image "a.png" .plain).perform w = (.done (), w') ∧
      w'.files.read "a.png" = .ok content ∧
      ∃ decoded, Png.decode content = .ok decoded ∧ decoded.bitmap = image ∧
        decoded.colourName = "Rgba8" := by
  intro image w
  have hDone : ((savePng image "a.png" .plain).perform w).1 = .done () := by decide
  obtain ⟨content, hRead, hDecoded⟩ := savePng_lossless Png.Choices.lossless_plain
    (by decide : image.width ≠ 0) (by decide : image.height ≠ 0) (Prod.ext hDone rfl)
  have hRoom := hDecoded Codec.byteOf16 Codec.maxMemory
  rw [if_pos (by decide)] at hRoom
  exact ⟨_, content, Prod.ext hDone rfl, hRead, hRoom⟩

end Iconsmith
