import Iconsmith.Proofs.Loading.Verdict
import Iconsmith.Proofs.Signature.Openings

/-! Files whose start tells an image format, before the signature check. The check knows
other marks than the formats do. Some of these stand far behind the start of a file, and
of two marks in one file that counts which is tried first. -/
namespace Iconsmith

open Codec.Format (Front startsWith startsWith_append startsWith_of_prefix startsWith_ofBytes
  length_le_of_startsWith compatible compatible_of_startsWith)

namespace Signature

/-! ### Refusals -/

/-- The first signature that a file has is that of something other than an image. -/
def Refuses (signatures : List ((ByteArray → Bool) × FileKind)) (b : ByteArray) : Prop :=
  ∃ s ∈ signatures.find? (fun s => s.1 b), s.2.isImage = false

section Refuses

variable {signatures images others : List ((ByteArray → Bool) × FileKind)} {b : ByteArray}

/-- A signature of something else refuses what it fits, and leaves the rest to those behind it. -/
theorem refuses_cons (fits : ByteArray → Bool) {kind : FileKind} (hOther : kind.isImage = false) :
    Refuses ((fits, kind) :: signatures) b ↔ fits b = true ∨ Refuses signatures b := by
  cases hFits : fits b <;> simp [Refuses, hFits, hOther]

/-- Signatures of images in front let everything pass that one of them fits. -/
theorem refuses_append (hImages : ∀ s ∈ images, s.2.isImage = true) :
    Refuses (images ++ signatures) b ↔
      images.any (fun s => s.1 b) = false ∧ Refuses signatures b := by
  induction images with
  | nil => simp
  | cons s images ih =>
    have hRest := ih fun s hs => hImages s (List.mem_cons_of_mem _ hs)
    have hImage := hImages s (List.mem_cons_self ..)
    cases hFits : s.1 b with
    | true => simp [Refuses, hFits, hImage]
    | false =>
      rw [List.any_cons, hFits, Bool.false_or, ← hRest]
      simp [Refuses, hFits]

/-- Where all signatures are of something else, each refuses what it fits. -/
theorem refuses_others (hOthers : ∀ s ∈ others, s.2.isImage = false) :
    Refuses others b ↔ others.any (fun s => s.1 b) = true := by
  induction others with
  | nil => simp [Refuses]
  | cons s others ih =>
    have hRest := ih fun s hs => hOthers s (List.mem_cons_of_mem _ hs)
    rw [refuses_cons s.1 (hOthers s (List.mem_cons_self ..)), hRest, List.any_cons,
      Bool.or_eq_true]

end Refuses

/-! ### Marks behind the start -/

/-- The mark of a book. -/
def isBook (b : ByteArray) : Bool := 67 < b.size && textAt b 60 "BOOKMOBI"

/-- A book. -/
def book : FileKind := ⟨"application/x-mobipocket-ebook", false⟩

/-- The images with a mark behind the start. -/
def veiledImages : List ((ByteArray → Bool) × FileKind) :=
  [(fun b => 11 < b.size && textAt b 8 "WEBP", ⟨"image/webp", true⟩),
    (hasBrand ["heic"], ⟨"image/heif", true⟩),
    (hasBrand ["avif", "avis"], ⟨"image/avif", true⟩)]

/-- What is tried after these images and can have the start of a format: other kinds with a mark
behind the start, and streams, whose mark can be the length of a box. -/
def veiledOthers : List ((ByteArray → Bool) × FileKind) :=
  [(isVideo, ⟨"video/mp4", false⟩),
    (fun b => 10 < b.size && textAt b 4 "ftypM4V", ⟨"video/x-m4v", false⟩),
    (isMatroska, ⟨"video/x-matroska", false⟩),
    (isMovie, ⟨"video/quicktime", false⟩),
    (isProgramme, ⟨"video/mpeg", false⟩),
    (fun b => 10 < b.size && (textAt b 4 "ftypM4A" || textAt b 0 "M4A "), ⟨"audio/m4a", false⟩),
    (fun b => 261 < b.size && textAt b 257 "ustar", ⟨"application/x-tar", false⟩),
    (isEmbeddedFont, ⟨"application/octet-stream", false⟩),
    (fun b => 131 < b.size && textAt b 128 "DICM", ⟨"application/dicom", false⟩)]

theorem opens_isProgramme : Opens [.ofBytes [0, 0, 1]] isProgramme :=
  ((opens_starts 3 _).and _).and _

theorem isImage_of_veiledOthers : ∀ s ∈ veiledOthers, s.2.isImage = false := by
  simp [veiledOthers]

/-- Of a short file the marks would lie behind the end. -/
theorem size_of_veiledOthers {b : ByteArray} (h : veiledOthers.any (fun s => s.1 b) = true) :
    10 < b.size ∨ isProgramme b = true := by
  simp only [veiledOthers, List.any_cons, List.any_nil, Bool.or_eq_true, Bool.and_eq_true,
    decide_eq_true_eq, isVideo, isMatroska, isMovie, isEmbeddedFont, Bool.false_eq_true,
    or_false] at h
  grind

/-- The formats of which the start is the mark of a signature. -/
def hasOwn : Codec.Format → Bool
  | .png | .jpeg | .gif | .webP | .tiff | .bmp | .ico => true
  | _ => false

/-- A file is taken for something other than an image although its start tells a format: for a book,
whatever the format is, and for something else if the format has no signature of its own. -/
def Mistaken (f : Codec.Format) (b : ByteArray) : Prop :=
  isBook b = true ∨ hasOwn f = false ∧ veiledImages.any (fun s => s.1 b) = false ∧
    veiledOthers.any (fun s => s.1 b) = true

instance (f : Codec.Format) (b : ByteArray) : Decidable (Mistaken f b) :=
  inferInstanceAs (Decidable (_ ∨ _))

/-! ### The signatures that are left for each format -/

/-- The signatures of images that are left for the start of a format, in their order. -/
def images : Codec.Format → List ((ByteArray → Bool) × FileKind)
  | .png => (starts 3 [0x89, 0x50, 0x4E, 0x47], ⟨"image/png", true⟩) :: veiledImages
  | .jpeg => (starts 2 [0xFF, 0xD8, 0xFF], ⟨"image/jpeg", true⟩) :: veiledImages
  | .gif => (startsText 2 "GIF", ⟨"image/gif", true⟩) :: veiledImages
  | .tiff => veiledImages.take 1 ++ [(isRaw, ⟨"image/x-canon-cr2", true⟩),
      (isTagged, ⟨"image/tiff", true⟩)] ++ veiledImages.drop 1
  | .bmp => veiledImages.take 1 ++ [(startsText 1 "BM", ⟨"image/bmp", true⟩)] ++
      veiledImages.drop 1
  | .ico | .avif => veiledImages.take 1 ++ [(starts 3 [0x00, 0x00, 0x01, 0x00],
      ⟨"image/vnd.microsoft.icon", true⟩)] ++ veiledImages.drop 1
  | _ => veiledImages

theorem isImage_of_images (f : Codec.Format) : ∀ s ∈ images f, s.2.isImage = true := by
  cases f <;> simp [images, veiledImages]

/-- Sound and video in a form start like the images in a form, and are tried after them. -/
def formOthers : List ((ByteArray → Bool) × FileKind) :=
  veiledOthers.take 4 ++ [(isForm 10 "RIFF" "AVI", ⟨"video/x-msvideo", false⟩)] ++
    (veiledOthers.drop 4).take 2 ++ [(isForm 11 "RIFF" "WAVE", ⟨"audio/x-wav", false⟩)] ++
    veiledOthers.drop 6

/-- For each mark of a format only a few signatures can fit: that of books comes first, then those
of images, and then some of other kinds. -/
theorem candidates_of_mark : ∀ m ∈ Codec.Format.magic,
    candidates m.1 = (isBook, book) :: (images m.2 ++ veiledOthers) ∨
      m.2 = .webP ∧ candidates m.1 = (isBook, book) :: (images m.2 ++ formOthers) := by
  unfold Codec.Format.magic
  repeat' refine List.forall_mem_cons.mpr ⟨?_, ?_⟩
  all_goals first
    | exact .inl rfl
    | exact .inr ⟨rfl, rfl⟩
    | exact List.forall_mem_nil _

/-- A signature of bytes fits every file that starts with a longer mark. -/
theorem starts_of_startsWith {p : Front} {b : ByteArray} (hp : startsWith b 0 p = true) {len : Nat}
    {bytes : List UInt8} (hPrefix : (Front.ofBytes bytes).isPrefixOf p = true)
    (hLength : len < p.length) : starts len bytes b = true := by
  have hSize := length_le_of_startsWith hp (Nat.zero_le _)
  rw [starts, Bool.and_eq_true, decide_eq_true_eq, ← startsWith_ofBytes]
  exact ⟨by omega, startsWith_of_prefix (List.isPrefixOf_iff_prefix.mp hPrefix) hp⟩

theorem any_of_getElem? {b : ByteArray} {signatures : List ((ByteArray → Bool) × FileKind)}
    {fits : ByteArray → Bool} {kind : FileKind} (k : Nat)
    (hPlace : signatures[k]? = some (fits, kind)) (hFits : fits b = true) :
    signatures.any (fun s => s.1 b) = true :=
  List.any_eq_true.mpr ⟨(fits, kind), List.mem_of_getElem? hPlace, hFits⟩

/-- A format that has a signature fits it, unless the file ends too early for the signature. -/
theorem any_images_of_mark {b : ByteArray} : ∀ m ∈ Codec.Format.magic,
    startsWith b 0 m.1 = true → hasOwn m.2 = true → (m.2 = .tiff → 9 < b.size) →
      (images m.2).any (fun s => s.1 b) = true := by
  unfold Codec.Format.magic
  repeat' refine List.forall_mem_cons.mpr ⟨?_, ?_⟩
  any_goals exact List.forall_mem_nil _
  all_goals
    intro hp hOwn hSize
    dsimp only at hp hSize ⊢
  any_goals exact Bool.noConfusion hOwn
  · exact any_of_getElem? 0 rfl (starts_of_startsWith hp (by decide) (by decide))
  · exact any_of_getElem? 0 rfl (starts_of_startsWith hp (by decide) (by decide))
  iterate 2
    have hGif : startsText 2 "GIF" b = true :=
      starts_of_startsWith hp (by decide) (by decide)
    exact any_of_getElem? 0 rfl hGif
  · have hLength := length_le_of_startsWith hp (Nat.zero_le _)
    have hForm : textAt b 8 "WEBP" = true := by
      rw [textAt, ← startsWith_ofBytes]
      exact (startsWith_append.mp hp).2
    refine any_of_getElem? 0 rfl (Bool.and_eq_true _ _ ▸ ⟨?_, hForm⟩)
    exact decide_eq_true hLength
  iterate 2
    have hTagged : isTagged b = true := by
      rw [← Front.ofBytes, startsWith_ofBytes] at hp
      simp [isTagged, starts, hSize, hp]
    exact any_of_getElem? 2 rfl hTagged
  · have hBitmap : startsText 1 "BM" b = true :=
      starts_of_startsWith hp (by decide) (by decide)
    exact any_of_getElem? 1 rfl hBitmap
  · exact any_of_getElem? 1 rfl (starts_of_startsWith hp (by decide) (by decide))

/-- The format that the content tells is that of a mark at its start. -/
theorem exists_mark {b : ByteArray} {f : Codec.Format}
    (hFormat : Codec.Format.ofContent? b = some f) :
    ∃ m ∈ Codec.Format.magic, startsWith b 0 m.1 = true ∧ m.2 = f := by
  obtain ⟨m, hFind, hf⟩ := Option.map_eq_some_iff.mp hFormat
  have hp := List.find?_some hFind
  exact ⟨m, List.mem_of_find?_eq_some hFind, hp, hf⟩

/-- A mark decides on the format if no mark that is tried before it can stand at the same start. -/
theorem ofContent?_of_startsWith {p : Front} {f : Codec.Format} {b : ByteArray}
    (hFirst : Codec.Format.magic.find? (fun m => compatible p m.1) = some (p, f))
    (hp : startsWith b 0 p = true) : Codec.Format.ofContent? b = some f := by
  rw [Codec.Format.ofContent?]
  generalize Codec.Format.magic = marks at hFirst
  induction marks with
  | nil => cases hFirst
  | cons m marks ih =>
    rw [List.find?_cons] at hFirst ⊢
    cases hCompatible : compatible p m.1 with
    | true =>
      rw [hCompatible] at hFirst
      obtain rfl := Option.some.inj hFirst
      simp [hp]
    | false =>
      rw [hCompatible] at hFirst
      cases hStarts : startsWith b 0 m.1 with
      | true => cases hCompatible.symm.trans (compatible_of_startsWith hp hStarts)
      | false => exact ih hFirst

/-- Of a format without a signature only marks behind the start are left. The signature of icons is
left for the start of boxed images, but a file that has it is an icon. -/
theorem any_images_of_content {b : ByteArray} {f : Codec.Format}
    (hFormat : Codec.Format.ofContent? b = some f) (hOwn : hasOwn f = false) :
    (images f).any (fun s => s.1 b) = veiledImages.any (fun s => s.1 b) := by
  cases f with
  | avif =>
    have hNoIcon : starts 3 [0x00, 0x00, 0x01, 0x00] b = false := by
      cases hStarts : starts 3 [0x00, 0x00, 0x01, 0x00] b with
      | false => rfl
      | true =>
        obtain ⟨p, hp, hFront⟩ := opens_starts 3 _ b hStarts
        obtain rfl := List.mem_singleton.mp hp
        have hIcon := ofContent?_of_startsWith (f := .ico) (by decide) hFront
        cases hFormat.symm.trans hIcon
    simp [images, veiledImages, hNoIcon]
  | png | jpeg | gif | webP | tiff | bmp | ico => cases hOwn
  | _ => rfl

/-- Marks decide in this order: the book's, those of images, all others. -/
theorem refuses_iff {b : ByteArray} {p : Front} {images others : List ((ByteArray → Bool) × FileKind)}
    (hp : startsWith b 0 p = true)
    (hCandidates : candidates p = (isBook, book) :: (images ++ others))
    (hImages : ∀ s ∈ images, s.2.isImage = true) :
    Refuses all b ↔
      isBook b = true ∨ images.any (fun s => s.1 b) = false ∧ Refuses others b := by
  rw [Refuses, find?_candidates hp, hCandidates, ← Refuses, refuses_cons _ rfl,
    refuses_append hImages]

/-- A signature asks for more bytes than the start of a file has. Where the file ends before that,
it ends before all marks behind the start as well. -/
theorem not_refuses_veiledOthers {b : ByteArray} {m : Front × Codec.Format}
    (hMark : m ∈ Codec.Format.magic) (hp : startsWith b 0 m.1 = true) (hTiff : m.2 = .tiff)
    (hShort : ¬9 < b.size) : ¬Refuses veiledOthers b := by
  have hApart : ∀ m ∈ Codec.Format.magic, m.2 = .tiff →
      compatible m.1 (.ofBytes [0, 0, 1]) = false := by
    decide
  rw [refuses_others isImage_of_veiledOthers]
  intro hAny
  obtain hLong | hStream := size_of_veiledOthers hAny
  · omega
  · have hNoStream : isProgramme b = false :=
      opens_isProgramme.eq_false hp (by simpa using hApart m hMark hTiff)
    cases hNoStream.symm.trans hStream

/-- A file that starts as an image is refused just where it is mistaken for something else. -/
theorem refuses_iff_mistaken {b : ByteArray} {f : Codec.Format}
    (hFormat : Codec.Format.ofContent? b = some f) : Refuses all b ↔ Mistaken f b := by
  obtain ⟨m, hMark, hp, rfl⟩ := exists_mark hFormat
  have hCandidates := candidates_of_mark m hMark
  rw [Mistaken]
  cases hOwn : hasOwn m.2 with
  | false =>
    obtain hVeiled | ⟨hForm, -⟩ := hCandidates
    · rw [refuses_iff hp hVeiled (isImage_of_images _), any_images_of_content hFormat hOwn,
        refuses_others isImage_of_veiledOthers]
      simp
    · rw [hForm] at hOwn
      cases hOwn
  | true =>
    by_cases hShort : m.2 = .tiff ∧ ¬9 < b.size
    · obtain ⟨hTiff, hShort⟩ := hShort
      obtain hVeiled | ⟨hForm, -⟩ := hCandidates
      · rw [refuses_iff hp hVeiled (isImage_of_images _)]
        simp [not_refuses_veiledOthers hMark hp hTiff hShort]
      · cases hTiff.symm.trans hForm
    · have hFits := any_images_of_mark m hMark hp hOwn fun hTiff =>
        Decidable.not_not.mp fun hSize => hShort ⟨hTiff, hSize⟩
      obtain hVeiled | ⟨-, hForms⟩ := hCandidates
      · rw [refuses_iff hp hVeiled (isImage_of_images _), hFits]
        simp
      · rw [refuses_iff hp hForms (isImage_of_images _), hFits]
        simp

end Signature

namespace Loading

open Signature

/-- A file is refused if it is empty or if the signatures refuse it. -/
theorem foreign_iff_refuses (b : ByteArray) : Foreign b ↔ b.size = 0 ∨ Refuses all b := by
  refine or_congr_right ⟨?_, ?_⟩
  · rintro ⟨kind, hKind, hOther⟩
    obtain ⟨s, hFind, rfl⟩ := Option.map_eq_some_iff.mp hKind
    exact ⟨s, hFind, hOther⟩
  · rintro ⟨s, hFind, hOther⟩
    exact ⟨s.2, Option.map_eq_some_iff.mpr ⟨s, hFind, rfl⟩, hOther⟩

theorem size_ne_zero_of_content {b : ByteArray} {f : Codec.Format}
    (hFormat : Codec.Format.ofContent? b = some f) : b.size ≠ 0 := by
  obtain ⟨m, hMark, hp, -⟩ := exists_mark hFormat
  have hMarks : ∀ m ∈ Codec.Format.magic, 0 < m.1.length := by decide
  have hSome := hMarks m hMark
  have hLength := length_le_of_startsWith hp (Nat.zero_le _)
  omega

/-- If the start of a file tells a format, the signature check lets the file pass just if it is not
mistaken: it has no mark of a book and, if its format has no signature of its own, no mark behind
the start of something else, unless it has one of an image, too. -/
theorem checkSignature_eq_ok_iff {b : ByteArray} {f : Codec.Format}
    (hFormat : Codec.Format.ofContent? b = some f) : checkSignature b = .ok () ↔ ¬Mistaken f b := by
  have hForeign : Foreign b ↔ Mistaken f b := by
    rw [foreign_iff_refuses, refuses_iff_mistaken hFormat]
    exact or_iff_right (size_ne_zero_of_content hFormat)
  rw [← hForeign]
  constructor
  · intro hPassed hRefused
    obtain ⟨failure, hError, -⟩ := checkSignature_of_foreign hRefused
    cases hError.symm.trans hPassed
  · exact checkSignature_of_not_foreign

/-- Eight pixels in a row, of which three have the colours that spell the mark of a book. -/
def bookBitmap : ByteArray :=
  Bytes.ofList (Bytes.ascii "BM" ++ [78, 0, 0, 0, 0, 0, 0, 0, 54, 0, 0, 0] ++
    [40, 0, 0, 0, 8, 0, 0, 0, 1, 0, 0, 0, 1, 0, 24, 0] ++ List.replicate 30 0 ++
    Bytes.ascii "BOOKMOBI" ++ List.replicate 10 0)

/-- The decoder would have read it. -/
theorem checkSignature_eq_ok_iff_bookBitmap :
    Codec.Format.ofContent? bookBitmap = some .bmp ∧
      (Codec.decode .bmp bookBitmap).toOption.map Bitmap.size = some ⟨8, 1⟩ ∧
      checkSignature bookBitmap ≠ .ok () := by
  have hFormat : Codec.Format.ofContent? bookBitmap = some .bmp := by decide
  refine ⟨hFormat, by decide +kernel, fun hPassed => ?_⟩
  exact (checkSignature_eq_ok_iff hFormat).mp hPassed (by decide)

/-- The two ways to know a format do not agree. -/
theorem checkSignature_not_always_ok :
    ¬∀ b : ByteArray, b.size ≠ 0 → (Codec.Format.ofContent? b).isSome →
      checkSignature b = .ok () := by
  intro h
  have hPassed := h bookBitmap (by decide) (by decide)
  have hRefused : checkSignature bookBitmap =
      .error (.notAnImage "application/x-mobipocket-ebook") := by
    decide
  cases hRefused.symm.trans hPassed

end Loading
end Iconsmith
