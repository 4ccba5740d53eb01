import Iconsmith.Proofs.Loading.Verdict
import Iconsmith.Proofs.World.Comparison
import Iconsmith.Shrink

/-! What the name of a bitmap file has to do with the icon. The format comes from the
content where that tells one. Otherwise it comes from the name, and that is all that the
name is asked for; it is repeated in some of the messages. -/
namespace Iconsmith

open Iconsmith.Action

/-- A failure with a gap for the name of a file between each two pieces of its detail. -/
structure FailurePattern where
  kind : FailureKind
  pieces : List String
deriving DecidableEq

namespace FailurePattern

/-- The failure about the file of a name. -/
def fill (p : FailurePattern) (name : String) : Failure := ⟨p.kind, name.intercalate p.pieces⟩

/-- A failure that names no file. -/
def plain (f : Failure) : FailurePattern := ⟨f.kind, [f.detail]⟩

theorem fill_plain (f : Failure) (name : String) : (plain f).fill name = f := rfl

theorem fill_pair (kind : FailureKind) (front back name : String) :
    fill ⟨kind, [front, back]⟩ name = ⟨kind, front ++ name ++ back⟩ := rfl

end FailurePattern

open FailurePattern

namespace Loading

/-- An image, or what is wrong with a file whatever it is called. -/
abbrev Judgement := Except FailurePattern Bitmap

/-- The judgement on a file of some name. -/
def Judgement.of (made : Judgement) (name : String) : Except Failure Bitmap :=
  made.mapError fun p => p.fill name

variable (s : Settings) (content : ByteArray)

/-- For each format, the verdict on a content is one pattern for all names. -/
theorem exists_decode (format : Option Codec.Format) : ∃ made : Judgement,
    (∀ path, format? path content = format → decode s (rawOf path content) = made.of path) ∧
    (format = none → ∃ p, made = .error p ∧ p.kind = .invalidFormat) := by
  cases format with
  | none =>
    refine ⟨.error ⟨.invalidFormat, ["无法识别图片格式：", ""]⟩, fun path hFormat => ?_,
      fun _ => ⟨_, rfl, rfl⟩⟩
    rw [decode_of_no_format hFormat]
    simp [Judgement.of, Except.mapError, fill_pair, Failure.unknownFormat]
  | some f =>
    -- The checks in their order; each refusal is the same for all names but for its gaps.
    suffices ∃ made : Judgement, ∀ path, format? path content = some f →
        decode s (rawOf path content) = made.of path by
      obtain ⟨made, hMade⟩ := this
      exact ⟨made, hMade, nofun⟩
    cases hHeader : Codec.dimensions f content with
    | error e =>
      refine ⟨.error (plain (.badHeader e.message)), fun path hFormat => ?_⟩
      rw [decode_of_format hFormat, hHeader]
      rfl
    | ok size =>
      by_cases hArea : s.maxDecodedPixels.toNat < size.area
      · refine ⟨.error (plain (.tooManyPixels size.area s.maxDecodedPixels.toNat)),
          fun path hFormat => ?_⟩
        rw [decode_of_format hFormat, hHeader]
        simp only [if_pos hArea]
        rfl
      cases hImage : Codec.decode f content with
      | error e =>
        refine ⟨.error ⟨.decode, ["图片解码失败（", "）：" ++ e.message]⟩, fun path hFormat => ?_⟩
        rw [decode_of_format hFormat, hHeader]
        simp [hArea, hImage, Judgement.of, Except.mapError, fill_pair, Failure.undecodable,
          String.append_assoc]
      | ok image =>
        by_cases hEmpty : image.width = 0 ∨ image.height = 0
        · refine ⟨.error ⟨.decode, ["图片尺寸为 0：", ""]⟩, fun path hFormat => ?_⟩
          rw [decode_of_format hFormat, hHeader]
          simp [hArea, hImage, hEmpty, Judgement.of, Except.mapError, fill_pair,
            Failure.decodedEmpty]
        · refine ⟨.ok image, fun path hFormat => ?_⟩
          rw [decode_of_format hFormat, hHeader]
          simp only [if_neg hArea, hImage, if_neg hEmpty]
          rfl

theorem kind_of_checkSignature {f : Failure} (h : checkSignature content = .error f) :
    f.kind = .invalidFormat := by
  by_cases hForeign : Foreign content
  · obtain ⟨g, hRefused, hKind⟩ := checkSignature_of_foreign hForeign
    obtain rfl := Except.error.inj (h.symm.trans hRefused)
    exact hKind
  · cases h.symm.trans (checkSignature_of_not_foreign hForeign)

/-- The first format that counts: that of the content, otherwise that of the name. -/
theorem format?_eq {path : String} {hint : Option Codec.Format}
    (hHint : Codec.Format.ofContent? content = none → Codec.Format.ofPath? path = hint) :
    format? path content = (Codec.Format.ofContent? content).or hint := by
  unfold format?
  cases hKnown : Codec.Format.ofContent? content with
  | none => rw [hHint hKnown]
  | some f => rfl

/-- The verdict on a file is one pattern as well, for all names that suggest the same format if
the content shows none. -/
theorem exists_load (hint : Option Codec.Format) : ∃ made : Judgement,
    (∀ (w : World) place path, w.files.locate path = .ok (place, .file content) →
      (Codec.Format.ofContent? content = none → Codec.Format.ofPath? path = hint) →
      ((load s path).perform w).1 = .ofExcept (made.of path)) ∧
    (Codec.Format.ofContent? content = none → hint = none → ∃ p, made = .error p ∧
      p.kind = if s.maxFileSize.toNat < content.size then .resourceLimit else .invalidFormat) := by
  by_cases hLong : s.maxFileSize.toNat < content.size
  · refine ⟨.error (plain (.fileTooLong content.size s.maxFileSize.toNat)),
      fun w place path hFile _ => ?_, fun _ _ => ⟨_, rfl, (if_pos hLong).symm⟩⟩
    rw [ending_load, ending_readFile_capped hFile, if_pos hLong]
    rfl
  cases hSignature : checkSignature (readCapped s.maxFileSize content) with
  | error f =>
    refine ⟨.error (plain f), fun w place path hFile _ => ?_, fun _ _ =>
      ⟨_, rfl, (kind_of_checkSignature _ hSignature).trans (if_neg hLong).symm⟩⟩
    rw [ending_load, ending_readFile_capped hFile, if_neg hLong, hSignature]
    rfl
  | ok _ =>
    have hWhole : readCapped s.maxFileSize content = content := by
      obtain hWhole | hNone := readCapped_eq_or (Nat.le_of_not_lt hLong)
      · exact hWhole
      · simp [checkSignature, hNone] at hSignature
    obtain ⟨made, hMade, hUnknown⟩ :=
      exists_decode s content ((Codec.Format.ofContent? content).or hint)
    refine ⟨made, fun w place path hFile hHint => ?_, fun hContent hNone => ?_⟩
    · rw [ending_load, ending_readFile_capped hFile, if_neg hLong, hSignature, hWhole]
      exact congrArg Ending.ofExcept (hMade path (format?_eq content hHint))
    · rw [if_neg hLong]
      exact hUnknown (by rw [hContent, hNone]; rfl)

end Loading

/-- Fitting an image does not look at the world. -/
theorem Canvas.ending_fit (s : Settings) (image : Bitmap) (w w' : World) :
    ((fit s image).perform w').1 = ((fit s image).perform w).1 :=
  (matched_fit (R := fun _ _ => True) s image w w' trivial).1

namespace Shrink

/-- What is left to do once it is known what becomes of a file. -/
def conclude (made : Ending FailurePattern (Bitmap × FitPlan)) (input output : String)
    (choices : Png.Choices) : Action Failure FitPlan :=
  match made with
  | .done (canvas, plan) => do
    Saving.savePng canvas output choices
    return plan
  | .failed p => throw (p.fill input)
  | .crashed c => Action.crash c

/-- What becomes of a file after a judgement. -/
def fitted (s : Settings) : Loading.Judgement → Ending FailurePattern (Bitmap × FitPlan)
  | .ok image => ((Canvas.fit s image).perform ⟨.empty, []⟩).1.mapError plain
  | .error p => .failed p

theorem matched_conclude (canvas : Bitmap) (plan : FitPlan) (output : String)
    (choices : Png.Choices) :
    Matched Eq (Saving.savePng canvas output choices >>= fun _ => pure plan)
      (Saving.savePng canvas output choices >>= fun _ => pure plan) :=
  (Saving.matched_savePng Files.Blind.eq (fun _ _ _ _ _ => not_false) canvas choices).bind fun _ =>
    matched_pure plan

/-- Once a file has been judged, its name and content are not asked for again. -/
theorem steps_of_load {s : Settings} {judgement : Loading.Judgement} {input : String} {w : World}
    (hLoad : ((Loading.load s input).perform w).1 = .ofExcept (judgement.of input))
    (output : String) (choices : Png.Choices) :
    let ended := (steps s input output choices).perform w
    let concluded := (conclude (fitted s judgement) input output choices).perform w
    ended.1 = concluded.1 ∧ ended.2.files = concluded.2.files := by
  intro ended concluded
  have hEnded : ended = (steps s input output choices).perform w := rfl
  have hLoadKept := Loading.keeps_load unmoved_files s input w
  -- Loading and fitting leave the files alone, so saving starts from those of the beginning.
  rw [steps, perform_bind] at hEnded
  cases hLoaded : (Loading.load s input).perform w with
  | mk ending v =>
    rw [hLoaded] at hLoad hLoadKept hEnded
    obtain rfl : ending = _ := hLoad
    cases judgement with
    | error p =>
      rw [hEnded]
      exact ⟨rfl, hLoadKept⟩
    | ok image =>
      have hFitKept := Canvas.keeps_fit unmoved_files s image v
      have hFitted : concluded = (conclude (((Canvas.fit s image).perform v).1.mapError plain) input
          output choices).perform w := by
        rw [Canvas.ending_fit s image ⟨.empty, []⟩ v]
        rfl
      change ended = (Canvas.fit s image >>= fun made => _).perform v at hEnded
      rw [perform_bind] at hEnded
      cases hFit : (Canvas.fit s image).perform v with
      | mk ending u =>
        rw [hFit] at hFitKept hFitted hEnded
        have hFiles : u.files = w.files := hFitKept.trans hLoadKept
        rw [hEnded, hFitted]
        cases ending with
        | done made =>
          obtain ⟨canvas, plan⟩ := made
          exact (matched_conclude canvas plan output choices w u hFiles.symm).imp id Eq.symm
        | failed f => exact ⟨rfl, hFiles⟩
        | crashed c => exact ⟨rfl, hFiles⟩

/-- What becomes of a file with some content is settled apart from its name, whatever the name is
if the content tells a format, and otherwise among the names that stand for one format or for none:
a canvas and a plan, or a failure with gaps for the name. Of two files of the same content one then
gives the icon that the other gives, or fails with the same kind and, but for the name in it, the
same message. Where neither content nor name tell a format, the file is refused for that, unless it
is too long already. -/
theorem run_named (s : ValidSettings) (content : ByteArray) (hint : Option Codec.Format) :
    ∃ made : Ending FailurePattern (Bitmap × FitPlan),
      (∀ (w : World) place input output choices,
        w.files.locate input = .ok (place, .file content) →
        (Codec.Format.ofContent? content = none → Codec.Format.ofPath? input = hint) →
        let ended := (run s input output choices).perform w
        let concluded := (conclude made input output choices).perform w
        ended.1 = concluded.1 ∧ ended.2.files = concluded.2.files) ∧
      (Codec.Format.ofContent? content = none → hint = none → ∃ p, made = .failed p ∧
        p.kind = if s.val.maxFileSize.toNat < content.size then .resourceLimit
          else .invalidFormat) := by
  obtain ⟨judgement, hLoad, hUnknown⟩ := Loading.exists_load s.val content hint
  refine ⟨fitted s.val judgement, fun w place input output choices hFile hHint => ?_,
    fun hContent hNone => ?_⟩
  · obtain ⟨hEnding, hFiles⟩ := steps_of_load (hLoad w place input hFile hHint) output choices
    exact ⟨(ending_reported ..).trans hEnding, (files_reported ..).trans hFiles⟩
  · obtain ⟨p, rfl, hKind⟩ := hUnknown hContent hNone
    exact ⟨p, rfl, hKind⟩

/-- One white pixel under a name without extension and under one that stands for another format,
and a file that tells nothing. -/
theorem run_named_twoNames :
    let s : ValidSettings := ⟨{ Settings.default with canvasSize := 1 }, by decide⟩
    let white := Bytes.ofList (Bytes.ascii "farbfeld" ++ Bytes.putBe32 1 ++ Bytes.putBe32 1 ++
      List.replicate 8 255)
    let w : World :=
      ⟨⟨[(["work", "white"], .file white), (["work", "white.bmp"], .file white),
        (["work", "blob"], .file ⟨#[1, 2, 3, 4]⟩), (["work"], .directory)], ["work"]⟩, []⟩
    let ending (input : String) := ((run s input "o.png" .plain).perform w).1
    ending "white" = .done ⟨.unit, ⟨1, 1⟩, 0, 0⟩ ∧
      ending "white.bmp" = .done ⟨.unit, ⟨1, 1⟩, 0, 0⟩ ∧
      (ending "blob").Refused .invalidFormat := by
  intro s white w ending
  have hWhite : w.files.locate "white" = .ok (["work", "white"], .file white) := by rfl
  have hBmp : w.files.locate "white.bmp" = .ok (["work", "white.bmp"], .file white) := by rfl
  have hFile : w.files.locate "blob" = .ok (["work", "blob"], .file ⟨#[1, 2, 3, 4]⟩) := by rfl
  have hContent : Codec.Format.ofContent? white ≠ none := by decide
  have hDone : ending "white" = .done ⟨.unit, ⟨1, 1⟩, 0, 0⟩ := by decide +kernel
  obtain ⟨made, hMade, -⟩ := run_named s white none
  have hFirst := (hMade w _ "white" "o.png" .plain hWhite fun hNone => absurd hNone hContent).1
  have hSecond := (hMade w _ "white.bmp" "o.png" .plain hBmp fun hNone => absurd hNone hContent).1
  obtain ⟨other, hOther, hUnknown⟩ := run_named s ⟨#[1, 2, 3, 4]⟩ none
  have hBlob := (hOther w _ "blob" "o.png" .plain hFile fun _ => by decide).1
  obtain ⟨p, rfl, hKind⟩ := hUnknown (by decide) rfl
  refine ⟨hDone, ?_, ⟨_, hBlob, hKind⟩⟩
  cases made with
  | done made => exact hSecond.trans (hFirst.symm.trans hDone)
  | failed p => cases hFirst.symm.trans hDone
  | crashed c => cases hFirst.symm.trans hDone

/-- The length of a file is checked before anything is known of its format. -/
theorem run_named_not_always :
    ¬∀ (s : ValidSettings) (content : ByteArray) (w : World) (place : Files.Place)
      (input output : String), w.files.locate input = .ok (place, .file content) →
      Codec.Format.ofContent? content = none → Codec.Format.ofPath? input = none →
      ((run s input output .plain).perform w).1.Refused .invalidFormat := by
  intro h
  let s : ValidSettings := ⟨{ Settings.default with maxFileSize := 4 }, by decide⟩
  let w : World :=
    ⟨⟨[(["work", "blob"], .file ⟨#[1, 2, 3, 4, 5, 6, 7, 8]⟩), (["work"], .directory)], ["work"]⟩, []⟩
  obtain ⟨f, hFailed, hKind⟩ := h s _ w _ "blob" "out.png" rfl (by decide) (by decide)
  have hLong : ((run s "blob" "out.png" .plain).perform w).1 = .failed (.fileTooLong 8 4) := by
    rfl
  rw [hLong] at hFailed
  obtain rfl := Ending.failed.inj hFailed
  cases hKind

end Shrink
end Iconsmith
