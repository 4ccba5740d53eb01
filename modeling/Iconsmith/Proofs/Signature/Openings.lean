import Iconsmith.Codec.Format
import Iconsmith.Proofs.Bytes.Placement
import Iconsmith.Signature
import Mathlib.Data.List.Forall2

/-! How files start. A format is known by the first bytes of a file, and most signatures
ask for some first bytes as well. A file whose start is known cannot fit a signature that
asks for another start, so that few signatures are left for it. -/
namespace Iconsmith

namespace Codec.Format

/-- The first bytes of a file, as far as they count. -/
abbrev Front := List (Option UInt8)

def Front.ofBytes (bytes : List UInt8) : Front := bytes.map some

def Front.ofText (s : String) : Front := ofBytes (Bytes.ascii s)

/-- One file can start in both ways. -/
def compatible : Front → Front → Bool
  | u :: p, v :: q => (u.isNone || v.isNone || u == v) && compatible p q
  | _, _ => true

variable {b : ByteArray} {i : Nat} {p q : Front}

/-- A front is checked byte by byte, and each byte must be inside of the file. -/
theorem startsWith_cons {e : Option UInt8} :
    startsWith b i (e :: p) = true ↔
      i < b.size ∧ (∀ v ∈ e, Bytes.byte b i = v) ∧ startsWith b (i + 1) p = true := by
  cases e <;> simp [startsWith, and_assoc]

/-- Two fronts in a row are checked one behind the other. -/
theorem startsWith_append :
    startsWith b i (p ++ q) = true ↔
      startsWith b i p = true ∧ startsWith b (i + p.length) q = true := by
  induction p generalizing i with
  | nil => simp [startsWith]
  | cons e p ih =>
    rw [List.cons_append, startsWith_cons, startsWith_cons, ih, List.length_cons, and_assoc,
      and_assoc, Nat.add_right_comm, Nat.add_assoc]

/-- What starts with a front starts with every beginning of it. -/
theorem startsWith_of_prefix (h : p <+: q) (hq : startsWith b i q = true) :
    startsWith b i p = true := by
  obtain ⟨rest, rfl⟩ := h
  exact (startsWith_append.mp hq).1

/-- A front lies inside of the file, also where any byte would do. -/
theorem length_le_of_startsWith (hp : startsWith b i p = true) (hi : i ≤ b.size) :
    i + p.length ≤ b.size := by
  induction p generalizing i with
  | nil => exact hi
  | cons e p ih =>
    obtain ⟨hThere, -, hRest⟩ := startsWith_cons.mp hp
    have hLength := ih hRest hThere
    rw [List.length_cons]
    omega

theorem startsWith_ofBytes (bytes : List UInt8) :
    startsWith b i (Front.ofBytes bytes) = Bytes.hasAt b i bytes := by
  rw [Front.ofBytes]
  induction bytes generalizing i with
  | nil => rfl
  | cons e es ih => rw [List.map_cons, startsWith, Bytes.hasAt, ih]

/-- Two fronts of one file nowhere ask for different bytes. -/
theorem compatible_of_startsWith (hp : startsWith b i p = true) (hq : startsWith b i q = true) :
    compatible p q = true := by
  induction p generalizing i q with
  | nil => simp [compatible]
  | cons u p ih =>
    cases q with
    | nil => rfl
    | cons v q =>
      obtain ⟨-, hu, hp⟩ := startsWith_cons.mp hp
      obtain ⟨-, hv, hq⟩ := startsWith_cons.mp hq
      rw [compatible, Bool.and_eq_true]
      refine ⟨?_, ih hp hq⟩
      cases u with
      | none => rfl
      | some x =>
        cases v with
        | none => rfl
        | some y => simp [← hu x rfl, ← hv y rfl]

end Codec.Format

namespace Signature

open Codec.Format

/-- A file of this signature starts in one of some ways. -/
def Opens (fronts : List Front) (fits : ByteArray → Bool) : Prop :=
  ∀ b, fits b = true → ∃ p ∈ fronts, startsWith b 0 p = true

section Opens

variable {fronts others : List Front} {fits other : ByteArray → Bool}

theorem opens_any (fits : ByteArray → Bool) : Opens [[]] fits := fun _ _ => ⟨[], by simp, rfl⟩

/-- One of two signatures opens with a front of either. -/
theorem Opens.or (h : Opens fronts fits) (hOther : Opens others other) :
    Opens (fronts ++ others) (fun b => fits b || other b) := by
  intro b hFits
  obtain hFirst | hSecond := (Bool.or_eq_true _ _).mp hFits
  · obtain ⟨p, hp, hStarts⟩ := h b hFirst
    exact ⟨p, List.mem_append_left _ hp, hStarts⟩
  · obtain ⟨p, hp, hStarts⟩ := hOther b hSecond
    exact ⟨p, List.mem_append_right _ hp, hStarts⟩

theorem Opens.and (h : Opens fronts fits) (other : ByteArray → Bool) :
    Opens fronts (fun b => fits b && other b) :=
  fun b hFits => h b ((Bool.and_eq_true _ _).mp hFits).1

theorem Opens.and_right (other : ByteArray → Bool) (h : Opens fronts fits) :
    Opens fronts (fun b => other b && fits b) :=
  fun b hFits => h b ((Bool.and_eq_true _ _).mp hFits).2

/-- Less may be told of a front, and in another order. -/
theorem Opens.mono (h : Opens fronts fits)
    (hCovered : (fronts.all fun q => others.any fun p => p.isPrefixOf q) = true) :
    Opens others fits := by
  intro b hFits
  obtain ⟨q, hq, hStarts⟩ := h b hFits
  obtain ⟨p, hp, hPrefix⟩ := List.any_eq_true.mp (List.all_eq_true.mp hCovered q hq)
  exact ⟨p, hp, startsWith_of_prefix (List.isPrefixOf_iff_prefix.mp hPrefix) hStarts⟩

theorem opens_hasAt (bytes : List UInt8) :
    Opens [.ofBytes bytes] (fun b => Bytes.hasAt b 0 bytes) :=
  fun _ hFits => ⟨_, List.mem_singleton_self _, (startsWith_ofBytes bytes).trans hFits⟩

/-- A signature of bytes opens with these bytes. -/
theorem opens_starts (len : Nat) (bytes : List UInt8) :
    Opens [.ofBytes bytes] (starts len bytes) :=
  (opens_hasAt bytes).and_right fun b => len < b.size

theorem opens_startsText (len : Nat) (s : String) : Opens [.ofText s] (startsText len s) :=
  opens_starts len (Bytes.ascii s)

/-- Of several signatures one opens the file. -/
theorem opens_any_starts (len : Nat) (marks : List (List UInt8)) :
    Opens (marks.map .ofBytes) (fun b => marks.any fun m => starts len m b) := by
  intro b hFits
  obtain ⟨m, hMark, hStarts⟩ := List.any_eq_true.mp hFits
  obtain ⟨p, hp, hFront⟩ := opens_starts len m b hStarts
  exact ⟨p, List.mem_map.mpr ⟨m, hMark, (List.mem_singleton.mp hp).symm⟩, hFront⟩

/-- A text at the start, and another one further behind. -/
theorem opens_textAt {len i : Nat} {s t : String} :
    Opens [.ofText s] (fun b => len < b.size && textAt b 0 s && textAt b i t) :=
  ((opens_hasAt _).and_right _).and _

end Opens

/-! ### The start that each signature asks for -/

theorem opens_isClass : Opens [.ofBytes [0x43, 0x41]] isClass :=
  ((opens_starts 7 _).or (opens_starts 7 _)).mono (by decide)

/-- The marks of this format are numbers in either order of bytes, so there are several fronts. -/
theorem opens_isMach :
    Opens [.ofBytes [0xFE, 0xED], .ofBytes [0xCE, 0xFA], .ofBytes [0xCF, 0xFA],
      .ofBytes [0xCA, 0xFE], .ofBytes [0xBE, 0xBA]] isMach :=
  (opens_any_starts 3 _).mono (by decide)

theorem opens_isDex : Opens [.ofText "de"] isDex :=
  ((opens_startsText 36 _).and _).mono (by decide)

theorem opens_isDey : Opens [.ofText "de"] isDey :=
  ((opens_startsText 100 _).and _).mono (by decide)

/-- Object files have a front for each kind of machine. -/
theorem opens_isObject :
    Opens [.ofBytes [0x64, 0x86], .ofBytes [0x4C, 0x01], .ofBytes [0x00, 0x02]] isObject :=
  ((opens_starts 1 _).or (opens_starts 1 _)).or (opens_starts 1 _)

theorem opens_isTypedArchive (mime : String) : Opens [.ofText "PK"] (isTypedArchive mime) :=
  ((opens_starts 57 _).and _).mono (by decide)

/-- Tagged files start with the order of their bytes and a fixed number. -/
theorem opens_isTagged :
    Opens [.ofBytes [0x49, 0x49, 0x2A, 0x00], .ofBytes [0x4D, 0x4D, 0x00, 0x2A]] isTagged :=
  (opens_starts 9 _).or (opens_starts 9 _)

theorem opens_isRaw :
    Opens [.ofBytes [0x49, 0x49, 0x2A, 0x00], .ofBytes [0x4D, 0x4D, 0x00, 0x2A]] isRaw :=
  (opens_isTagged.and _).and _

/-- JPEG XL files have a short front and, within a container, a longer one. -/
theorem opens_isJxl :
    Opens [.ofBytes [0xFF, 0x0A], .ofBytes [0x00, 0x00, 0x00, 0x0C, 0x4A]] isJxl :=
  ((opens_starts 1 _).or (opens_starts 11 _)).mono (by decide)

theorem opens_isContainer : Opens [.ofBytes [0x1A, 0x45]] isContainer :=
  (opens_starts 3 _).mono (by decide)

theorem opens_isForm (len : Nat) (outer inner : String) :
    Opens [.ofText outer] (isForm len outer inner) :=
  (opens_startsText len outer).and _

theorem opens_isZip : Opens [.ofText "PK"] isZip := ((opens_startsText 3 "PK").and _).and _

theorem opens_isStorage : Opens [.ofBytes [0xD0, 0xCF]] isStorage :=
  (opens_starts 7 _).mono (by decide)

/-- Documents of each kind are archives. -/
theorem opens_office (k : Nat) : Opens [.ofText "PK"] (fun b => office? b == some k) := by
  intro b hFits
  refine (opens_starts 3 [0x50, 0x4B, 0x03, 0x04]).mono (by decide) b ?_
  cases hStarts : starts 3 [0x50, 0x4B, 0x03, 0x04] b with
  | true => rfl
  | false => simp [office?, hStarts] at hFits

/-- A frame, or one that is passed over, whose mark has any of sixteen first bytes. -/
theorem opens_isZstd :
    Opens [.ofBytes [0x28, 0xB5], [none, some 0x2A]] (fun b => isZstd (b.size + 1) b) := by
  intro b hFits
  simp only [isZstd] at hFits
  split at hFits
  · next hFrame => exact (opens_starts 3 [0x28, 0xB5, 0x2F, 0xFD]).mono (by decide) b hFrame
  split at hFits
  · cases hFits
  split at hFits
  · cases hFits
  · next hLength hMark =>
    have hSecond : (Bytes.byte b 1).toNat = 42 := by
      simp only [ne_eq, Decidable.not_not, Bytes.le32, Bytes.le16, Bytes.nat, Nat.zero_add,
        Nat.reduceAdd] at hMark
      have h₀ := (Bytes.byte b 0).toNat_lt
      have h₁ := (Bytes.byte b 1).toNat_lt
      have h₂ := (Bytes.byte b 2).toNat_lt
      have h₃ := (Bytes.byte b 3).toNat_lt
      omega
    refine ⟨[none, some 0x2A], by simp, startsWith_cons.mpr ⟨by omega, by simp,
      startsWith_cons.mpr ⟨by omega, fun v hv => ?_, rfl⟩⟩⟩
    obtain rfl := Option.some.inj hv
    exact UInt8.toNat_inj.mp hSecond

/-- Archives of this kind start with a number in either order of bytes, or with one in letters. -/
theorem opens_cpio :
    Opens [.ofBytes [0xC7, 0x71], .ofBytes [0x71, 0xC7], .ofText "07"]
      (fun b => starts 1 [0xC7, 0x71] b || starts 1 [0x71, 0xC7] b || startsText 6 "070701" b ||
        startsText 6 "070702" b || startsText 6 "070707" b) :=
  (((((opens_starts 1 _).or (opens_starts 1 _)).or (opens_startsText 6 _)).or
    (opens_startsText 6 _)).or (opens_startsText 6 _)).mono (by decide)

/-- White space. -/
def blanks : List UInt8 := [9, 10, 12, 13, 32]

/-- A tag stands behind white space and opens with a bracket. -/
def tagFronts : List Front := (blanks ++ [60]).map fun v => [some v]

/-- No letter becomes an angle bracket. -/
theorem eq_of_upper_eq {v : UInt8} (h : upper v = 60) : v = 60 := by
  rw [upper] at h
  split at h
  · next hSmall =>
    obtain rfl : v = 92 := by rw [← UInt8.sub_add_cancel v 32, h]; rfl
    exact absurd hSmall (by decide)
  · exact h

/-- A tag in whatever case starts with its bracket. -/
theorem head?_of_startsAnyCase {l : List UInt8} {tag : String}
    (hTag : (Bytes.ascii tag).head? = some 60) (h : startsAnyCase (Bytes.ofList l) tag = true) :
    l.head? = some 60 := by
  obtain ⟨rest, hAscii⟩ := List.head?_eq_some_iff.mp hTag
  simp only [startsAnyCase, hAscii, Bool.and_eq_true, beq_iff_eq, Bytes.slice,
    Bytes.extract_ofList, Bytes.toList_ofList] at h
  cases l with
  | nil => simp at h
  | cons v l =>
    have hUpper : upper v = upper 60 := Option.some.inj (by simpa using congrArg List.head? h.2)
    rw [eq_of_upper_eq hUpper]
    rfl

/-- Blanks at the start are skipped up to the first other byte. -/
theorem skipSpace_ofList (l : List UInt8) :
    skipSpace (Bytes.ofList l) = Bytes.ofList (l.dropWhile (blanks.contains ·)) := by
  have hBlank : (fun v : UInt8 => v == 9 || v == 10 || v == 12 || v == 13 || v == 32) =
      (blanks.contains ·) := by
    funext v
    simp only [blanks, List.contains_cons, List.contains_nil, Bool.or_false, Bool.or_assoc]
  rw [skipSpace]
  simp only [hBlank, Bytes.toList_ofList, Bytes.extract_ofList, Bytes.size_ofList, List.take_length]
  conv_lhs => arg 1; arg 2; rw [← List.takeWhile_append_dropWhile (p := (blanks.contains ·)) (l := l)]
  rw [List.drop_left]

/-- A tag may have blanks in front of it, so the file opens with a blank or a bracket. -/
theorem opens_tag {tag : String} (hTag : (Bytes.ascii tag).head? = some 60) :
    Opens tagFronts (fun b => startsAnyCase (skipSpace b) tag) := by
  intro b hFits
  obtain ⟨l, rfl⟩ : ∃ l, b = Bytes.ofList l := ⟨_, (Bytes.ofList_data b).symm⟩
  dsimp only at hFits
  rw [skipSpace_ofList] at hFits
  have hHead := head?_of_startsAnyCase hTag hFits
  cases l with
  | nil => simp at hHead
  | cons v l =>
    have hFirst : startsWith (Bytes.ofList (v :: l)) 0 [some v] = true := by
      rw [startsWith_cons, Bytes.size_ofList, Bytes.byte_ofList]
      simp [startsWith]
    refine ⟨[some v], List.mem_map.mpr ⟨v, ?_, rfl⟩, hFirst⟩
    cases hBlank : blanks.contains v with
    | true => exact List.mem_append_left _ (List.contains_iff_mem.mp hBlank)
    | false =>
      rw [List.dropWhile_cons_of_neg (by simpa using hBlank), List.head?_cons] at hHead
      obtain rfl := Option.some.inj hHead
      exact List.mem_append_right blanks (List.mem_singleton_self _)

theorem opens_isPage : Opens tagFronts isPage := by
  intro b hFits
  obtain ⟨tag, hTag, hStarts⟩ := List.any_eq_true.mp hFits
  have hBracket : ∀ tag ∈ pageTags, (Bytes.ascii tag).head? = some 60 := by decide
  obtain ⟨hTagged, -⟩ := (Bool.and_eq_true _ _).mp ((Bool.and_eq_true _ _).mp hStarts).1
  exact opens_tag (hBracket tag hTag) b hTagged

/-- The start that each signature asks for, in the order of the signatures. One whose marks stand
further behind leaves the start open. -/
def openings : List (List Front) :=
  let exact := Front.ofBytes
  let text := Front.ofText
  let zip : List Front := [text "PK"]
  let anyhow : List Front := [[]]
  [[exact [0x00, 0x61]], [exact [0x7F, 0x45]], [text "MZ"], [exact [0x43, 0x41]], [text "BC"],
    [exact [0xFE, 0xED], exact [0xCE, 0xFA], exact [0xCF, 0xFA], exact [0xCA, 0xFE],
      exact [0xBE, 0xBA]],
    [text "de"], [text "de"], [exact [0x30, 0x82]],
    [exact [0x64, 0x86], exact [0x4C, 0x01], exact [0x00, 0x02]], zip, anyhow,
    [exact [0xFF, 0xD8]], [exact [0x00, 0x00, 0x00, 0x0C, 0x6A]], [exact [0x89, 0x50]],
    [text "GIF"], anyhow,
    [exact [0x49, 0x49, 0x2A, 0x00], exact [0x4D, 0x4D, 0x00, 0x2A]],
    [exact [0x49, 0x49, 0x2A, 0x00], exact [0x4D, 0x4D, 0x00, 0x2A]],
    [text "BM"], [exact [0x49, 0x49, 0xBC]], [text "8B"], [exact [0x00, 0x00, 0x01, 0x00]],
    anyhow, anyhow, [exact [0xFF, 0x0A], exact [0x00, 0x00, 0x00, 0x0C, 0x4A]], zip,
    [text "AT"], anyhow, anyhow, anyhow, [exact [0x1A, 0x45]], anyhow, [text "RIFF"],
    [exact [0x30, 0x26]], anyhow, [text "FL"], [text "MT"], [text "ID", exact [0xFF, 0xFB]],
    anyhow, [text "Og"], [text "Og"], [text "fL"], [text "RIFF"], [text "#!"],
    [exact [0xFF, 0xF1], exact [0xFF, 0xF9]], [text "FO"], [text "DS"], [text "MA"], [text "wO"],
    [text "wO"], [exact [0x00, 0x01]], [text "OT"], zip, zip, zip, zip, zip, zip, zip, anyhow,
    [text "Ra"], [exact [0x1F, 0x8B]], [text "BZ"], [text "BZ"], [exact [0x37, 0x7A]],
    [exact [0xFD, 0x37]], [text "%P"], [text "CW", text "FW"], [exact [0x7B]], anyhow,
    [text "%!"], [text "SQ"], [text "NE"], [text "Cr"], [text "MS", text "IS"], [text "!<"],
    [text "!<"], [exact [0x1F, 0xA0], exact [0x1F, 0x9D]], [text "LZ"], [exact [0xED, 0xAB]],
    anyhow, [exact [0x28, 0xB5], [none, some 0x2A]], [exact [0x04, 0x22]], [exact [0xD0, 0xCF]],
    [exact [0xC7, 0x71], exact [0x71, 0xC7], text "07"], [text "PA"], tagFronts, tagFronts,
    [text "#!"]]

/-- A file has the start that its signature asks for. -/
theorem opens_all : List.Forall₂ (fun fronts s => Opens fronts s.1) openings all := by
  unfold openings all
  repeat' apply List.Forall₂.cons
  -- the signatures that are not put together from others come first
  all_goals with_reducible first
    | exact .nil
    | exact opens_any _
    | exact (opens_starts _ _).mono (by decide)
    | exact (opens_startsText _ _).mono (by decide)
    | exact ((opens_starts _ _).and _).mono (by decide)
    | exact ((opens_starts _ _).or (opens_starts _ _)).mono (by decide)
    | exact ((opens_startsText _ _).or (opens_starts _ _)).mono (by decide)
    | exact ((opens_startsText _ _).or (opens_startsText _ _)).mono (by decide)
    | exact opens_textAt.mono (by decide)
    | exact (opens_isForm _ _ _).mono (by decide)
    | exact opens_isTypedArchive _
    | exact opens_isClass
    | exact opens_isMach
    | exact opens_isDex
    | exact opens_isDey
    | exact opens_isObject
    | exact opens_isTagged
    | exact opens_isRaw
    | exact opens_isJxl
    | exact opens_isContainer
    | exact opens_isZip
    | exact opens_office _
    | exact opens_isZstd
    | exact opens_isStorage
    | exact opens_cpio
    | exact opens_isPage
    | exact opens_tag (by decide)

/-! ### The signatures that are left -/

section Left

variable {p : Front} {b : ByteArray}

/-- The signatures that a file of some start can have, in their order. -/
def candidates (p : Front) : List ((ByteArray → Bool) × FileKind) :=
  ((openings.zip all).filter fun s => s.1.any (compatible p)).map Prod.snd

/-- A signature does not fit a file whose start is compatible with none of its fronts. -/
theorem Opens.eq_false {fronts : List Front} {fits : ByteArray → Bool} (h : Opens fronts fits)
    (hp : startsWith b 0 p = true) (hApart : fronts.any (compatible p) = false) :
    fits b = false := by
  cases hFits : fits b with
  | false => rfl
  | true =>
    obtain ⟨q, hq, hStarts⟩ := h b hFits
    have hBoth : fronts.any (compatible p) = true :=
      List.any_eq_true.mpr ⟨q, hq, compatible_of_startsWith hp hStarts⟩
    cases hApart.symm.trans hBoth

/-- Of all signatures only those that are compatible with the start have to be tried. -/
theorem find?_of_opens {fronts : List (List Front)} {signatures : List ((ByteArray → Bool) × FileKind)}
    (h : List.Forall₂ (fun fronts s => Opens fronts s.1) fronts signatures)
    (hp : startsWith b 0 p = true) :
    signatures.find? (fun s => s.1 b) =
      (((fronts.zip signatures).filter fun s => s.1.any (compatible p)).map Prod.snd).find?
        fun s => s.1 b := by
  induction h with
  | nil => rfl
  | cons hOpens _ ih =>
    rw [List.zip_cons_cons, List.filter_cons]
    split
    · rw [List.map_cons, List.find?_cons, List.find?_cons, ih]
    · next hApart =>
      rw [List.find?_cons, hOpens.eq_false hp (eq_false_of_ne_true hApart)]
      exact ih

/-- The first signature that a file has is among those that are left for its start. -/
theorem find?_candidates (hp : startsWith b 0 p = true) :
    all.find? (fun s => s.1 b) = (candidates p).find? fun s => s.1 b :=
  find?_of_opens opens_all hp

end Left
end Signature
end Iconsmith
