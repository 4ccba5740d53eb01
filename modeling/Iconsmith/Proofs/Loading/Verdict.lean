import Iconsmith.Loading
import Iconsmith.Proofs.Codec.Sides
import Iconsmith.Proofs.World.Observation

/-! The verdict on a bitmap file. The checks have an order, and the first that refuses
the file decides the kind of the failure. All of them look at the whole file: what is
read of a file that is not too long is never a part of it. -/
namespace Iconsmith

namespace Ending

variable {ε α : Type}

/-- The end of a run that only computes. -/
def ofExcept : Except ε α → Ending ε α
  | .ok r => .done r
  | .error e => .failed e

/-- A run is refused with a failure of this kind. -/
def Refused (kind : FailureKind) (ending : Ending Failure α) : Prop :=
  ∃ f, ending = .failed f ∧ f.kind = kind

/-- There is one kind of failure at most. -/
theorem Refused.kind_eq {kind other : FailureKind} {ending : Ending Failure α}
    (h : ending.Refused kind) (hOther : ending.Refused other) : kind = other := by
  obtain ⟨f, hFailed, rfl⟩ := h
  obtain ⟨g, hAgain, rfl⟩ := hOther
  rw [hFailed] at hAgain
  obtain rfl := Ending.failed.inj hAgain
  rfl

end Ending

namespace Loading

/-! ### Reasons -/

section Reasons

variable (s : Settings) (path : String) (content : ByteArray)

/-- The format by which a file is read: what its content tells, otherwise its name. -/
def format? : Option Codec.Format :=
  (Codec.Format.ofContent? content).or (Codec.Format.ofPath? path)

/-- There is no content, or it is known to be something other than an image. -/
def Foreign : Prop :=
  content.size = 0 ∨ ∃ kind ∈ FileKind.of? content, kind.isImage = false

/-- The sides of the image are not told: no format is known, or its header cannot be
read. -/
def Headless : Prop :=
  format? path content = none ∨
    ∃ f ∈ format? path content, (Codec.dimensions f content).isOk = false

/-- The header announces more pixels than the limit, counted without bound. -/
def Oversized : Prop :=
  ∃ f ∈ format? path content, ∃ size ∈ (Codec.dimensions f content).toOption,
    s.maxDecodedPixels.toNat < size.width.toNat * size.height.toNat

/-- The file cannot be decoded to an image with pixels. -/
def Undecodable : Prop :=
  ∃ f ∈ format? path content, (Codec.decode f content).isOk = false ∨
    ∃ image ∈ (Codec.decode f content).toOption, image.width = 0 ∨ image.height = 0

instance : Decidable (Foreign content) := inferInstanceAs (Decidable (_ ∨ _))

instance : Decidable (Headless path content) := inferInstanceAs (Decidable (_ ∨ _))

instance : Decidable (Oversized s path content) := inferInstanceAs (Decidable (∃ _ ∈ _, _))

instance : Decidable (Undecodable path content) := inferInstanceAs (Decidable (∃ _ ∈ _, _))

end Reasons

/-! ### Steps -/

/-- A file that is not too long is read to its end, as the cap lies behind it. -/
theorem readCapped_eq {limit : UInt64} {content : ByteArray} (hLimit : limit.toNat + 1 < UInt64.size)
    (hLength : content.size ≤ limit.toNat) : readCapped limit content = content := by
  have hCount : (limit + 1).toNat = limit.toNat + 1 := by
    rw [UInt64.toNat_add, UInt64.toNat_one, Nat.mod_eq_of_lt hLimit]
  refine ByteArray.ext ?_
  rw [readCapped, ByteArray.data_extract, hCount]
  exact Array.extract_eq_self_of_le (Nat.le_succ_of_le hLength)

theorem size_readCapped_le (limit : UInt64) (content : ByteArray) :
    (readCapped limit content).size ≤ content.size := by
  rw [readCapped, ByteArray.size_extract, Nat.sub_zero]
  exact Nat.min_le_right _ _

/-- Only where one byte more than the limit is no number of 64 bits, nothing is read at all. -/
theorem readCapped_eq_or {limit : UInt64} {content : ByteArray}
    (hLength : content.size ≤ limit.toNat) :
    readCapped limit content = content ∨ (readCapped limit content).size = 0 := by
  obtain hLess | hLast : limit.toNat + 1 < UInt64.size ∨ limit.toNat + 1 = UInt64.size := by
    have := limit.toNat_lt_size
    omega
  · exact Or.inl (readCapped_eq hLess hLength)
  · have hNone : (limit + 1).toNat = 0 := by
      rw [UInt64.toNat_add, UInt64.toNat_one, hLast, Nat.mod_self]
    exact Or.inr (by rw [readCapped, hNone, ByteArray.size_extract, Nat.zero_min])

variable {s : Settings} {path : String} {content : ByteArray} {w : World}

/-- What is known to be something else is refused as an invalid format. -/
theorem checkSignature_of_foreign (h : Foreign content) :
    ∃ f, checkSignature content = .error f ∧ f.kind = .invalidFormat := by
  unfold checkSignature
  obtain hEmpty | ⟨kind, hKind, hOther⟩ := h
  · exact ⟨_, if_pos hEmpty, rfl⟩
  · split
    · exact ⟨_, rfl, rfl⟩
    · rw [Option.mem_def.mp hKind]
      simp only [hOther]
      exact ⟨_, rfl, rfl⟩

theorem checkSignature_of_not_foreign (h : ¬Foreign content) : checkSignature content = .ok () := by
  obtain ⟨hContent, hKind⟩ := not_or.mp h
  rw [checkSignature, if_neg hContent]
  split
  · rfl
  · next kind hFound =>
    have hImage : kind.isImage = true :=
      eq_true_of_ne_false fun hOther => hKind ⟨kind, hFound, hOther⟩
    rw [if_pos hImage]

/-- What is known of a file that has been read. -/
def rawOf (path : String) (content : ByteArray) : Raw :=
  ⟨content, path, Codec.Format.ofPath? path⟩

/-- The format is that of the content, or else that of the name. -/
theorem or_rawOf (path : String) (content : ByteArray) :
    (Codec.Format.ofContent? (rawOf path content).content).or (rawOf path content).hint =
      format? path content := by
  rw [format?, rawOf]

/-- The two readings of a file of known format. -/
theorem decode_of_format {f : Codec.Format} (hFormat : format? path content = some f) :
    decode s (rawOf path content) =
      match Codec.dimensions f content with
        | .error e => .error (.badHeader e.message)
        | .ok size =>
          if s.maxDecodedPixels.toNat < size.area then
            .error (.tooManyPixels size.area s.maxDecodedPixels.toNat)
          else
            match Codec.decode f content with
              | .error e => .error (.undecodable path e.message)
              | .ok image =>
                if image.width = 0 ∨ image.height = 0 then .error (.decodedEmpty path)
                else .ok image := by
  have hKnown : (rawOf path content).format = .ok f := by
    rw [Raw.format, or_rawOf, hFormat]
  unfold decode
  rw [hKnown]
  simp only [bind, Except.bind]
  rfl

theorem decode_of_no_format (hFormat : format? path content = none) :
    decode s (rawOf path content) = .error (.unknownFormat path) := by
  have hUnknown : (rawOf path content).format = .error (.unknownFormat path) := by
    rw [Raw.format, or_rawOf, hFormat]
    rfl
  rw [decode, hUnknown]
  rfl

section Known

variable {f : Codec.Format} {size : Size} (hFormat : format? path content = some f)

include hFormat

theorem not_headless (hHeader : Codec.dimensions f content = .ok size) :
    ¬Headless path content := by
  simp [Headless, hFormat, hHeader, Except.isOk, Except.toBool]

/-- Once a header can be read only its pixels count against the limit. -/
theorem oversized_iff (hHeader : Codec.dimensions f content = .ok size) :
    Oversized s path content ↔ s.maxDecodedPixels.toNat < size.area := by
  simp [Oversized, hFormat, hHeader, Except.toOption, Size.area]

theorem undecodable_iff {image : Bitmap} (hImage : Codec.decode f content = .ok image) :
    Undecodable path content ↔ image.width = 0 ∨ image.height = 0 := by
  simp [Undecodable, hFormat, hImage, Except.isOk, Except.toBool, Except.toOption]

end Known

/-- The order of the checks while decoding. -/
theorem decode_verdict (s : Settings) (path : String) (content : ByteArray) :
    let ending := Ending.ofExcept (decode s (rawOf path content))
    if Headless path content then ending.Refused .invalidFormat
    else if Oversized s path content then ending.Refused .resourceLimit
    else if Undecodable path content then ending.Refused .decode
    else ∃ f ∈ format? path content, ∃ image,
      Codec.decode f content = .ok image ∧ ending = .done image := by
  intro ending
  -- A check is decided as soon as those in front of it have been passed.
  cases hFormat : format? path content with
  | none =>
    have hHeadless : Headless path content := Or.inl hFormat
    rw [if_pos hHeadless]
    exact ⟨_, congrArg Ending.ofExcept (decode_of_no_format hFormat), rfl⟩
  | some f =>
    have hDecode : ending = _ := congrArg Ending.ofExcept (decode_of_format hFormat)
    cases hHeader : Codec.dimensions f content with
    | error e =>
      have hHeadless : Headless path content := Or.inr ⟨f, hFormat, by rw [hHeader]; rfl⟩
      rw [if_pos hHeadless, hDecode, hHeader]
      exact ⟨_, rfl, rfl⟩
    | ok size =>
      rw [if_neg (not_headless hFormat hHeader), hDecode, hHeader]
      simp only [oversized_iff hFormat hHeader]
      split
      · exact ⟨_, rfl, rfl⟩
      cases hImage : Codec.decode f content with
      | error e =>
        have hUndecodable : Undecodable path content := ⟨f, hFormat, Or.inl (by rw [hImage]; rfl)⟩
        rw [if_pos hUndecodable]
        exact ⟨_, rfl, rfl⟩
      | ok image =>
        simp only [undecodable_iff hFormat hImage]
        split
        · exact ⟨_, rfl, rfl⟩
        · exact ⟨f, rfl, image, hImage, rfl⟩

/-! ### A file that is read twice

The limit is compared with what the header says at the first reading, and the image comes
from the second. -/

/-- A file has a decoded image just when one format, told from its content and
otherwise from its name, serves both readings: its header announces the sides of the
image, which are not zero and make up no more pixels than the limit, counted without
bound, and all of the file gives just that many. -/
theorem decode_eq_ok_iff (s : ValidSettings) (raw : Raw) (image : Bitmap) :
    decode s raw = .ok image ↔
      ∃ f, raw.format = .ok f ∧
        Codec.dimensions f raw.content = .ok image.size ∧
        Codec.pixels f raw.content = .ok image.pixels ∧
        image.width ≠ 0 ∧ image.height ≠ 0 ∧
        image.width.toNat * image.height.toNat ≤ s.val.maxDecodedPixels.toNat := by
  constructor
  · intro h
    obtain ⟨f, hFormat, h⟩ := bind_eq_ok.mp h
    split at h
    · cases h
    · next size hSize =>
      obtain ⟨hLimit, h⟩ := guard_eq_ok.mp h
      obtain ⟨g, hAgain, h⟩ := bind_eq_ok.mp h
      obtain rfl := Except.ok.inj (hFormat.symm.trans hAgain)
      split at h
      · cases h
      · next decoded hDecoded =>
        obtain ⟨hSides, h⟩ := guard_eq_ok.mp h
        obtain rfl := Except.ok.inj h
        obtain ⟨hHeader, hPixels⟩ := Codec.decode_eq_ok.mp hDecoded
        obtain rfl := Except.ok.inj (hHeader.symm.trans hSize)
        obtain ⟨hWidth, hHeight⟩ := not_or.mp hSides
        exact ⟨f, hFormat, hHeader, hPixels, hWidth, hHeight, Nat.le_of_not_lt hLimit⟩
  · rintro ⟨f, hFormat, hHeader, hPixels, hWidth, hHeight, hLimit⟩
    refine bind_eq_ok.mpr ⟨f, hFormat, ?_⟩
    rw [hHeader]
    refine guard_eq_ok.mpr ⟨Nat.not_lt.mpr hLimit, bind_eq_ok.mpr ⟨f, hFormat, ?_⟩⟩
    rw [Codec.decode_eq_ok.mpr ⟨hHeader, hPixels⟩]
    exact guard_eq_ok.mpr ⟨not_or.mpr ⟨hWidth, hHeight⟩, rfl⟩

/-- One white pixel, in a file whose name tells nothing. -/
example : (decode .default ⟨Bytes.ofList (Bytes.ascii "farbfeld" ++ Bytes.putBe32 1 ++
    Bytes.putBe32 1 ++ List.replicate 8 255), "white", none⟩).toOption.map Bitmap.pixels =
    some #[.gray 255] := by decide +kernel

/-! ### Runs -/

open Iconsmith.Action

/-- Reading a file that is there, as a computation. -/
theorem ending_readFile_capped {place : Files.Place}
    (hFile : w.files.locate path = .ok (place, .file content)) :
    ((readFile s path).perform w).1 =
      if s.maxFileSize.toNat < content.size then
        .failed (.fileTooLong content.size s.maxFileSize.toNat)
      else .ofExcept ((checkSignature (readCapped s.maxFileSize content)).map fun _ =>
        rawOf path (readCapped s.maxFileSize content)) := by
  unfold readFile
  simp only [perform_bind, perform_report, perform_files, hFile]
  by_cases hLong : s.maxFileSize.toNat < content.size
  · simp only [if_pos hLong]
    rfl
  have hCapped : ¬s.maxFileSize.toNat < (readCapped s.maxFileSize content).size :=
    Nat.not_lt.mpr (Nat.le_trans (size_readCapped_le _ _) (Nat.le_of_not_lt hLong))
  simp only [if_neg hLong, if_neg hCapped]
  cases checkSignature (readCapped s.maxFileSize content) <;> split <;> rfl

/-- With a limit below the greatest number a file is read as a whole or refused. -/
theorem ending_readFile {place : Files.Place} (hLimit : s.maxFileSize.toNat + 1 < UInt64.size)
    (hFile : w.files.locate path = .ok (place, .file content)) :
    ((readFile s path).perform w).1 =
      if s.maxFileSize.toNat < content.size then
        .failed (.fileTooLong content.size s.maxFileSize.toNat)
      else .ofExcept ((checkSignature content).map fun _ => rawOf path content) := by
  rw [ending_readFile_capped hFile]
  split
  · rfl
  · next hShort => rw [readCapped_eq hLimit (Nat.le_of_not_lt hShort)]

/-- Decoding looks at nothing but what was read. -/
theorem ending_load (s : Settings) (path : String) (w : World) :
    ((load s path).perform w).1 =
      match ((readFile s path).perform w).1 with
        | .done raw => .ofExcept (decode s raw)
        | .failed f => .failed f
        | .crashed c => .crashed c := by
  rw [load, perform_bind]
  cases (readFile s path).perform w with
  | mk ending w' =>
    cases ending with
    | done raw =>
      dsimp only
      cases decode s raw <;> rfl
    | failed f => rfl
    | crashed c => rfl

/-- A path that leads nowhere ends the run at once. -/
theorem ending_load_of_error {e : Files.OsError} (hAbsent : w.files.locate path = .error e) :
    ((load s path).perform w).1 = .failed (.noBitmap path) := by
  rw [ending_load, readFile]
  simp only [perform_bind, perform_report, perform_files, hAbsent]
  rfl

theorem ending_load_of_directory {place : Files.Place}
    (hDirectory : w.files.locate path = .ok (place, .directory)) :
    ((load s path).perform w).1 =
      .failed (.unreadableBitmap Files.OsError.isDirectory.message) := by
  rw [ending_load, readFile]
  simp only [perform_bind, perform_report, perform_files, hDirectory]
  rfl

section File

variable {place : Files.Place} (hLimit : s.maxFileSize.toNat + 1 < UInt64.size)
  (hFile : w.files.locate path = .ok (place, .file content))

include hLimit hFile

/-- The order of the checks of a file. -/
theorem file_verdict :
    let ending := ((load s path).perform w).1
    if s.maxFileSize.toNat < content.size then ending.Refused .resourceLimit
    else if Foreign content ∨ Headless path content then ending.Refused .invalidFormat
    else if Oversized s path content then ending.Refused .resourceLimit
    else if Undecodable path content then ending.Refused .decode
    else ∃ f ∈ format? path content, ∃ image,
      Codec.decode f content = .ok image ∧ ending = .done image := by
  intro ending
  have hEnding : ending = _ := ending_load s path w
  rw [ending_readFile hLimit hFile] at hEnding
  split
  · next hLong =>
    rw [hEnding, if_pos hLong]
    exact ⟨_, rfl, rfl⟩
  · next hShort =>
    rw [if_neg hShort] at hEnding
    by_cases hForeign : Foreign content
    · obtain ⟨f, hRefused, hKind⟩ := checkSignature_of_foreign hForeign
      rw [if_pos (Or.inl hForeign), hEnding, hRefused]
      exact ⟨f, rfl, hKind⟩
    · have hDecode : ending = .ofExcept (decode s (rawOf path content)) := by
        rw [hEnding, checkSignature_of_not_foreign hForeign]
        rfl
      simp only [hForeign, false_or, hDecode]
      exact decode_verdict s path content

/-- A file is never refused as one that does not exist. -/
theorem not_sourceNotFound : ¬((load s path).perform w).1.Refused .sourceNotFound := by
  intro hRefused
  have hVerdict := file_verdict hLimit hFile
  dsimp only at hVerdict
  split at hVerdict
  · cases hRefused.kind_eq hVerdict
  split at hVerdict
  · cases hRefused.kind_eq hVerdict
  split at hVerdict
  · cases hRefused.kind_eq hVerdict
  split at hVerdict
  · cases hRefused.kind_eq hVerdict
  · obtain ⟨_, -, _, -, hDone⟩ := hVerdict
    obtain ⟨_, hFailed, -⟩ := hRefused
    cases hDone.symm.trans hFailed

/-- What is read of a file is all of it. -/
theorem content_of_readFile {raw : Raw} {w' : World}
    (hRead : (readFile s path).perform w = (.done raw, w')) : raw.content = content := by
  have hEnding := ending_readFile hLimit hFile
  rw [hRead] at hEnding
  split at hEnding
  · cases hEnding
  · cases hSignature : checkSignature content with
    | error f =>
      rw [hSignature] at hEnding
      cases hEnding
    | ok _ =>
      rw [hSignature] at hEnding
      obtain rfl := Ending.done.inj hEnding
      rfl

end File

/-- For a path that leads to nothing or to a file, and a limit that leaves a number of 64
bits for one byte more: the first check that refuses decides the kind of the failure. No
file; a file longer than the limit; a file that is empty, known to be something other than
an image, or without a format or a header; more pixels than the limit; no image with
pixels. Without a refusal the image is decoded. All of this is about the whole file, which
is what is read of it. -/
theorem load_verdict (s : Settings) (path : String) (w : World)
    (hLimit : s.maxFileSize.toNat + 1 < UInt64.size) :
    let ending := ((load s path).perform w).1
    (ending.Refused .sourceNotFound ↔ ∃ e, w.files.locate path = .error e) ∧
    ∀ place content, w.files.locate path = .ok (place, .file content) →
      (if s.maxFileSize.toNat < content.size then ending.Refused .resourceLimit
      else if Foreign content ∨ Headless path content then ending.Refused .invalidFormat
      else if Oversized s path content then ending.Refused .resourceLimit
      else if Undecodable path content then ending.Refused .decode
      else ∃ f ∈ format? path content, ∃ image,
        Codec.decode f content = .ok image ∧ ending = .done image) ∧
      ∀ raw w', (readFile s path).perform w = (.done raw, w') → raw.content = content := by
  intro ending
  refine ⟨⟨fun hRefused => ?_, ?_⟩, fun place content hFile =>
    ⟨file_verdict hLimit hFile, fun raw w' hRead => content_of_readFile hLimit hFile hRead⟩⟩
  · cases hLocated : w.files.locate path with
    | error e => exact ⟨e, rfl⟩
    | ok found =>
      obtain ⟨place, entry⟩ := found
      cases entry with
      | directory =>
        have hDirectory : ending.Refused .fileSystem :=
          ⟨_, ending_load_of_directory hLocated, rfl⟩
        cases hRefused.kind_eq hDirectory
      | file content => exact absurd hRefused (not_sourceNotFound hLimit hLocated)
  · rintro ⟨e, hAbsent⟩
    exact ⟨_, ending_load_of_error hAbsent, rfl⟩

/-- One white pixel, in a file of 24 bytes whose name tells nothing. With a limit of just
its length it is loaded and with one byte less it is too long; another name leads to no
file. -/
theorem load_verdict_onePixel :
    let content := Bytes.ofList (Bytes.ascii "farbfeld" ++ Bytes.putBe32 1 ++ Bytes.putBe32 1 ++
      List.replicate 8 255)
    let w : World :=
      ⟨⟨[(["work", "white"], .file content), (["work"], .directory)], ["work"]⟩, []⟩
    let limited (limit : UInt64) : Settings := { Settings.default with maxFileSize := limit }
    (∃ image, Codec.decode .farbfeld content = .ok image ∧
      ((load (limited 24) "white").perform w).1 = .done image) ∧
    ((load (limited 23) "white").perform w).1.Refused .resourceLimit ∧
    ((load (limited 24) "black").perform w).1.Refused .sourceNotFound := by
  intro content w limited
  have hFile : w.files.locate "white" = .ok (["work", "white"], .file content) := by rfl
  have hAbsent : w.files.locate "black" = .error .notFound := by rfl
  have hFormat : format? "white" content = some .farbfeld := by decide
  have hLoaded := ((load_verdict (limited 24) "white" w (by decide)).2 _ _ hFile).1
  have hLong := ((load_verdict (limited 23) "white" w (by decide)).2 _ _ hFile).1
  rw [if_neg (by decide), if_neg (by decide +kernel), if_neg (by decide +kernel),
    if_neg (by decide +kernel), hFormat] at hLoaded
  rw [if_pos (by decide)] at hLong
  obtain ⟨f, hKnown, hImage⟩ := hLoaded
  obtain rfl := Option.some.inj hKnown
  exact ⟨hImage, hLong, (load_verdict (limited 24) "black" w (by decide)).1.mpr ⟨_, hAbsent⟩⟩

end Loading
end Iconsmith
