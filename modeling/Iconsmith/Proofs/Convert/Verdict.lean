import Iconsmith.Convert
import Iconsmith.Proofs.Loading.Verdict
import Iconsmith.Proofs.Png.RoundTrip

/-! The verdict on a conversion. Its source must exist and its size must be accepted
before anything is drawn or written, in this order. What goes wrong later is a failure of
another kind, so the kind of a failure tells which check has refused. A conversion that
succeeds has written a file of just the size that was asked for. -/
namespace Iconsmith

open Iconsmith.Action

theorem Ending.Refused.iff_eq {α : Type} {kind other : FailureKind} {ending : Ending Failure α}
    (h : ending.Refused kind) : ending.Refused other ↔ other = kind :=
  ⟨fun hOther => hOther.kind_eq h, fun hSame => hSame ▸ h⟩

namespace Saving

variable {image : Bitmap} {path : String} {choices : Png.Choices} {f : Failure} {w w' : World}

/-- A directory that cannot be made is a failure of the file system. -/
theorem kind_of_prepareDirectory (h : (prepareDirectory path).perform w = (.failed f, w')) :
    f.kind = .fileSystem := by
  unfold prepareDirectory at h
  split at h
  · simp at h
  · rw [perform_bind, perform_files] at h
    dsimp only at h
    split at h
    · simp at h
    · rw [perform_bind, perform_setFiles] at h
      dsimp only at h
      split at h
      · simp only [perform_throw, Prod.mk.injEq, Ending.failed.injEq] at h
        exact h.1 ▸ rfl
      · simp at h

/-- Once there is a directory for the file, only its writing is left to go wrong. -/
theorem kind_of_prepared (hReady : ((prepareDirectory path).perform w).1 = .done ())
    (h : (savePng image path choices).perform w = (.failed f, w')) : f.kind = .encode := by
  rw [savePng, perform_bind, ← Prod.eta ((prepareDirectory path).perform w),
    hReady] at h
  simp only [perform_bind, perform_files] at h
  cases hWrite : ((prepareDirectory path).perform w).2.files.write path
      (Png.encode image choices) with
  | ok t => simp [hWrite] at h
  | error e =>
    simp only [hWrite, perform_throw, Prod.mk.injEq, Ending.failed.injEq] at h
    exact h.1 ▸ rfl

/-- Nothing is written where there is no directory, and the failure is that of the directory. -/
theorem savePng_of_not_prepared (h : (prepareDirectory path).perform w = (.failed f, w')) :
    (savePng image path choices).perform w = (.failed f, w') := by
  rw [savePng, perform_bind, h]

/-- What can go wrong with a file that is written. -/
theorem kind_of_savePng (h : (savePng image path choices).perform w = (.failed f, w')) :
    f.kind = .fileSystem ∨ f.kind = .encode := by
  cases hPrepare : (prepareDirectory path).perform w with
  | mk ending v =>
    cases ending with
    | done u => exact Or.inr (kind_of_prepared (by rw [hPrepare]) h)
    | failed e =>
      rw [savePng_of_not_prepared hPrepare] at h
      obtain rfl := Ending.failed.inj (Prod.mk.inj h).1
      exact Or.inl (kind_of_prepareDirectory hPrepare)
    | crashed c =>
      rw [savePng, perform_bind, hPrepare] at h
      simp at h

end Saving

namespace Convert

/-! ### Steps -/

theorem checkSize_of_zero {s : Settings} {size : Size} (h : size.width = 0 ∨ size.height = 0) :
    checkSize s size = .error (.emptyOutput size.text) := if_pos h

/-- More pixels than the limit are pixels at least. -/
theorem checkSize_of_lt {s : Settings} {size : Size} (h : s.maxDecodedPixels.toNat < size.area) :
    checkSize s size = .error (.outputTooLarge size.area s.maxDecodedPixels.toNat) := by
  have hSides : ¬(size.width = 0 ∨ size.height = 0) := by
    rintro (hZero | hZero) <;> simp [Size.area, hZero] at h
  rw [checkSize, if_neg hSides, if_pos h]

/-- A size passes if it has pixels and no more of them than the limit. -/
theorem checkSize_eq_ok {s : Settings} {size : Size} :
    checkSize s size = .ok () ↔
      ¬(size.width = 0 ∨ size.height = 0) ∧ size.area ≤ s.maxDecodedPixels.toNat := by
  unfold checkSize
  split
  · next hZero => simp [hZero]
  · next hSides =>
    split
    · next hLimit => simp [Nat.not_le.mpr hLimit]
    · next hLimit => simp [hSides, Nat.le_of_not_lt hLimit]

end Convert

/-- A drawing is rendered in the size that is asked for. -/
theorem Svg.size_of_render {library : Library} {content : ByteArray} {size : Size} {image : Bitmap}
    (h : render library content size = .ok image) : image.size = size := by
  unfold render at h
  split at h
  · simp at h
  · split at h
    · obtain rfl := Except.ok.inj h
      rfl
    · simp at h

theorem Svg.kind_of_render {library : Library} {content : ByteArray} {size : Size} {f : Failure}
    (h : render library content size = .error f) : f.kind = .render := by
  unfold render at h
  split at h
  · obtain rfl := Except.error.inj h
    rfl
  · split at h
    · simp at h
    · obtain rfl := Except.error.inj h
      rfl

namespace Convert

section Rendered

variable {s : Settings} {t : Files.Tree} {place : Files.Place} {source : Files.Entry} {size : Size}

/-- The built-in icon or a drawing from a file, the image has the size that is asked for. -/
theorem size_of_rendered {image : Bitmap} (h : rendered s t place source size = .ok image) :
    image.size = size := by
  unfold rendered at h
  split at h
  · exact Svg.size_of_render h
  · simp at h
  · exact Svg.size_of_render h

/-- An image is missing because it cannot be drawn or because its file cannot be read. -/
theorem kind_of_rendered {f : Failure} (h : rendered s t place source size = .error f) :
    f.kind = .render ∨ f.kind = .fileSystem := by
  unfold rendered at h
  split at h
  · exact Or.inl (Svg.kind_of_render h)
  · obtain rfl := Except.error.inj h
    exact Or.inr rfl
  · exact Or.inl (Svg.kind_of_render h)

end Rendered

/-- What is left to do once the source exists, given what has come of the drawing. -/
def conclude (s : Settings) (png : String) (asked : Size) (drawn : Except Failure Bitmap)
    (choices : Png.Choices) : Action Failure Size :=
  match checkSize s asked with
  | .error f => throw f
  | .ok () =>
    match drawn with
    | .error f => throw f
    | .ok image => do
      Saving.savePng image png choices
      return asked

section Steps

variable {s : Settings} {svg png : String} {size : Option Size} {choices : Png.Choices} {w : World}

theorem exists_locate (hThere : w.files.exists? svg = true) :
    ∃ place source, w.files.locate svg = .ok (place, source) := by
  unfold Files.Tree.exists? at hThere
  split at hThere
  · next found hLocated => exact ⟨found.1, found.2, hLocated⟩
  · simp at hThere

/-- Without its source a conversion does nothing. -/
theorem perform_steps_of_absent (s : Settings) (png : String) (size : Option Size)
    (choices : Png.Choices) (hAbsent : w.files.exists? svg = false) :
    (steps s svg png size choices).perform w = (.failed (.noDrawing svg), w) := by
  unfold Files.Tree.exists? at hAbsent
  split at hAbsent
  · simp at hAbsent
  · next e hLocated =>
    rw [steps, perform_bind, perform_files]
    simp only [hLocated, perform_throw]

/-- With its source a conversion is checked, drawn and saved. -/
theorem perform_steps_of_locate {place : Files.Place} {source : Files.Entry}
    (hLocated : w.files.locate svg = .ok (place, source)) :
    (steps s svg png size choices).perform w =
      (conclude s png (size.getD s.defaultSize)
        (rendered s w.files place source (size.getD s.defaultSize)) choices).perform w := by
  rw [steps, perform_bind, perform_files]
  simp only [hLocated]
  unfold conclude
  cases checkSize s (size.getD s.defaultSize) with
  | error f => rfl
  | ok _ => cases rendered s w.files place source (size.getD s.defaultSize) <;> rfl

/-- A size that is refused is refused before anything is drawn. -/
theorem perform_steps_of_checkSize (png : String) (choices : Png.Choices) {f : Failure}
    (hThere : w.files.exists? svg = true)
    (hRefused : checkSize s (size.getD s.defaultSize) = .error f) :
    (steps s svg png size choices).perform w = (.failed f, w) := by
  obtain ⟨place, source, hLocated⟩ := exists_locate hThere
  rw [perform_steps_of_locate hLocated]
  unfold conclude
  rw [hRefused]
  rfl

section Checked

variable (hThere : w.files.exists? svg = true)
  (hSize : checkSize s (size.getD s.defaultSize) = .ok ())

include hThere hSize

/-- After the checks a failure is of another kind. -/
theorem kind_of_steps {f : Failure} {w' : World}
    (h : (steps s svg png size choices).perform w = (.failed f, w')) :
    f.kind = .render ∨ f.kind = .fileSystem ∨ f.kind = .encode := by
  obtain ⟨place, source, hLocated⟩ := exists_locate hThere
  rw [perform_steps_of_locate hLocated] at h
  unfold conclude at h
  rw [hSize] at h
  dsimp only at h
  split at h
  · next g hRendered =>
    obtain rfl := Ending.failed.inj (Prod.mk.inj h).1
    exact (kind_of_rendered hRendered).imp id Or.inl
  · next image hRendered =>
    rw [perform_bind] at h
    split at h
    · simp at h
    · next g v hSaved =>
      obtain rfl := Ending.failed.inj (Prod.mk.inj h).1
      exact Or.inr (Saving.kind_of_savePng hSaved)
    · simp at h

/-- A result is a file of the size that was asked for. -/
theorem written_of_checked {made : Size} {w' : World}
    (h : (steps s svg png size choices).perform w = (.done made, w')) :
    made = size.getD s.defaultSize ∧
      ∃ image, w'.files.read png = .ok (Png.encode image choices) ∧ image.size = made := by
  obtain ⟨place, source, hLocated⟩ := exists_locate hThere
  rw [perform_steps_of_locate hLocated] at h
  unfold conclude at h
  rw [hSize] at h
  dsimp only at h
  split at h
  · simp at h
  · next image hRendered =>
    obtain ⟨_, v, hSaved, hMade⟩ := done_of_bind h
    simp only [perform_pure, Prod.mk.injEq, Ending.done.injEq] at hMade
    obtain ⟨rfl, rfl⟩ := hMade
    exact ⟨rfl, image, Saving.read_of_savePng hSaved, size_of_rendered hRendered⟩

end Checked

/-- The checks in their order: the first that refuses decides, and nothing is written. -/
theorem verdict_of_steps (s : Settings) (svg png : String) (size : Option Size)
    (choices : Png.Choices) (w : World) :
    let asked := size.getD s.defaultSize
    let ending := ((steps s svg png size choices).perform w).1
    let after := ((steps s svg png size choices).perform w).2.files
    if w.files.exists? svg = false then ending.Refused .sourceNotFound ∧ after = w.files
    else if asked.width = 0 ∨ asked.height = 0 then
      ending.Refused .invalidFormat ∧ after = w.files
    else if s.maxDecodedPixels.toNat < asked.area then
      ending.Refused .resourceLimit ∧ after = w.files
    else ∀ kind, ending.Refused kind →
      kind = .render ∨ kind = .fileSystem ∨ kind = .encode := by
  intro asked ending after
  split
  · next hAbsent =>
    have hSteps := perform_steps_of_absent s png size choices hAbsent
    exact ⟨⟨_, congrArg Prod.fst hSteps, rfl⟩, congrArg (fun r => r.2.files) hSteps⟩
  · next hThere =>
    rw [Bool.not_eq_false] at hThere
    split
    · next hZero =>
      have hSteps := perform_steps_of_checkSize png choices hThere (checkSize_of_zero hZero)
      exact ⟨⟨_, congrArg Prod.fst hSteps, rfl⟩, congrArg (fun r => r.2.files) hSteps⟩
    · next hSides =>
      split
      · next hLimit =>
        have hSteps := perform_steps_of_checkSize png choices hThere (checkSize_of_lt hLimit)
        exact ⟨⟨_, congrArg Prod.fst hSteps, rfl⟩, congrArg (fun r => r.2.files) hSteps⟩
      · next hLimit =>
        rintro kind ⟨f, hFailed, rfl⟩
        have hSize := checkSize_eq_ok.mpr ⟨hSides, Nat.le_of_not_lt hLimit⟩
        exact kind_of_steps hThere hSize (Prod.ext hFailed rfl)

/-- The three kinds of failure that the checks have are those of the checks alone. -/
theorem refused_of_steps (s : Settings) (svg png : String) (size : Option Size)
    (choices : Png.Choices) (w : World) :
    let asked := size.getD s.defaultSize
    let ending := ((steps s svg png size choices).perform w).1
    let after := ((steps s svg png size choices).perform w).2.files
    (ending.Refused .sourceNotFound ↔ w.files.exists? svg = false) ∧
    (w.files.exists? svg = true →
      (ending.Refused .invalidFormat ↔ asked.width = 0 ∨ asked.height = 0)) ∧
    (w.files.exists? svg = true → ¬(asked.width = 0 ∨ asked.height = 0) →
      (ending.Refused .resourceLimit ↔ s.maxDecodedPixels.toNat < asked.area)) ∧
    ∀ kind ∈ [FailureKind.sourceNotFound, .invalidFormat, .resourceLimit],
      ending.Refused kind → after = w.files := by
  intro asked ending after
  have hVerdict := verdict_of_steps s svg png size choices w
  dsimp only at hVerdict
  split at hVerdict
  · next hAbsent => simp [ending, after, hVerdict.1.iff_eq, hAbsent, hVerdict.2]
  · next hThere =>
    split at hVerdict
    · next hZero => simp [ending, after, asked, hVerdict.1.iff_eq, hThere, hZero, hVerdict.2]
    · next hSides =>
      split at hVerdict
      · next hLimit =>
        simp [ending, after, asked, hVerdict.1.iff_eq, hThere, hSides, hLimit, hVerdict.2]
      · next hLimit =>
        have hOther {kind : FailureKind} (h : ending.Refused kind) := hVerdict kind h
        refine ⟨⟨fun h => by simpa using hOther h, fun h => absurd h hThere⟩,
          fun _ => ⟨fun h => by simpa using hOther h, fun h => absurd h hSides⟩,
          fun _ _ => ⟨fun h => by simpa using hOther h, fun h => absurd h hLimit⟩,
          fun kind hKind h => ?_⟩
        obtain rfl | rfl | rfl := hOther h <;> simp at hKind

/-- A conversion with a result has passed all checks. -/
theorem checked_of_done {made : Size} {w' : World}
    (h : (steps s svg png size choices).perform w = (.done made, w')) :
    w.files.exists? svg = true ∧ checkSize s (size.getD s.defaultSize) = .ok () := by
  cases hThere : w.files.exists? svg with
  | false => simp [perform_steps_of_absent s png size choices hThere] at h
  | true =>
    refine ⟨rfl, ?_⟩
    cases hSize : checkSize s (size.getD s.defaultSize) with
    | error f => simp [perform_steps_of_checkSize png choices hThere hSize] at h
    | ok _ => rfl

/-- The file that is written holds an image of the size that was asked for, if nothing is lost in
packing. -/
theorem decoded_of_done {made : Size} {w' : World}
    (h : (steps s svg png size choices).perform w = (.done made, w')) :
    made = size.getD s.defaultSize ∧
      ∃ content, w'.files.read png = .ok content ∧ (choices.Lossless → ∀ narrow room,
        if 4 * made.area ≤ room then
          ∃ decoded, Png.decodeWithin room narrow content = .ok decoded ∧
            decoded.bitmap.size = made
        else Png.decodeWithin room narrow content = .error .memory) := by
  obtain ⟨hThere, hSize⟩ := checked_of_done h
  obtain ⟨hMade, image, hRead, hImage⟩ := written_of_checked hThere hSize h
  obtain ⟨hSides, -⟩ := checkSize_eq_ok.mp hSize
  rw [← hMade, ← hImage] at hSides
  obtain ⟨hWidth, hHeight⟩ := not_or.mp hSides
  refine ⟨hMade, _, hRead, fun hLossless narrow room => ?_⟩
  rw [Png.decodeWithin_encode hLossless hWidth hHeight,
    show image.area = made.area from hImage ▸ rfl]
  split
  · next hRoom => exact ⟨_, if_neg (Nat.not_lt.mpr hRoom), hImage⟩
  · next hRoom => exact if_pos (Nat.lt_of_not_le hRoom)

end Steps

/-- The checks of a conversion, whatever drawing the settings choose: its source must exist, the
size that is asked for, or else that of the settings, must have two sides, and its pixels, counted
without bound, must be within the limit. Each of the three kinds of failure tells that its check is
the first to refuse, and then no file is touched. The result is the size that was asked for, and
in the file that is written every reader with room for four bytes a pixel finds an image of that
size, whichever filters the writer uses and however it packs, if it packs without loss. -/
theorem run_verdict (s : ValidSettings) (svg png : String) (size : Option Size)
    (choices : Png.Choices) (w : World) :
    let asked := size.getD s.val.defaultSize
    let ending := ((run s svg png size choices).perform w).1
    let after := ((run s svg png size choices).perform w).2.files
    (ending.Refused .sourceNotFound ↔ w.files.exists? svg = false) ∧
    (w.files.exists? svg = true →
      (ending.Refused .invalidFormat ↔ asked.width = 0 ∨ asked.height = 0)) ∧
    (w.files.exists? svg = true → ¬(asked.width = 0 ∨ asked.height = 0) →
      (ending.Refused .resourceLimit ↔
        s.val.maxDecodedPixels.toNat < asked.width.toNat * asked.height.toNat)) ∧
    (∀ kind ∈ [FailureKind.sourceNotFound, .invalidFormat, .resourceLimit],
      ending.Refused kind → after = w.files) ∧
    ∀ made, ending = .done made → made = asked ∧
      ∃ content, after.read png = .ok content ∧ (choices.Lossless → ∀ narrow room,
        if 4 * (made.width.toNat * made.height.toNat) ≤ room then
          ∃ decoded, Png.decodeWithin room narrow content = .ok decoded ∧
            decoded.bitmap.size = made
        else Png.decodeWithin room narrow content = .error .memory) := by
  intro asked ending after
  have hEnding : ending = ((steps s.val svg png size choices).perform w).1 := ending_reported ..
  have hAfter : after = ((steps s.val svg png size choices).perform w).2.files := files_reported ..
  obtain ⟨hSource, hSides, hLimit, hKept⟩ := refused_of_steps s.val svg png size choices w
  rw [hEnding, hAfter]
  exact ⟨hSource, hSides, hLimit, hKept, fun made hDone => decoded_of_done (Prod.ext hDone rfl)⟩

/-- An empty drawing with a limit of four pixels. Of no size at all only the missing source counts;
the sides of the settings are just within the limit. -/
theorem run_verdict_fourPixels :
    let s : ValidSettings :=
      ⟨{ Settings.default with
        drawing := .file, defaultSize := ⟨2, 2⟩, maxDecodedPixels := 4 }, by decide⟩
    let drawing :=
      Bytes.ofList (Bytes.ascii "<svg xmlns=\"http://www.w3.org/2000/svg\" width=\"1\" height=\"1\"/>")
    let w : World :=
      ⟨⟨[(["work", "a.svg"], .file drawing), (["work"], .directory)], ["work"]⟩, []⟩
    let ending (svg : String) (size : Option Size) := ((run s svg "a.png" size .plain).perform w).1
    (ending "b.svg" (some ⟨0, 7⟩)).Refused .sourceNotFound ∧
      (ending "a.svg" (some ⟨0, 7⟩)).Refused .invalidFormat ∧
      (ending "a.svg" (some ⟨4294967295, 4294967295⟩)).Refused .resourceLimit ∧
      ∃ content decoded,
        ((run s "a.svg" "a.png" none .plain).perform w).2.files.read "a.png" = .ok content ∧
          Png.decode content = .ok decoded ∧ decoded.bitmap.size = ⟨2, 2⟩ := by
  intro s drawing w ending
  have hThere : w.files.exists? "a.svg" = true := by decide +kernel
  have hDone : ending "a.svg" none = .done ⟨2, 2⟩ := by decide +kernel
  refine ⟨(run_verdict s "b.svg" "a.png" _ .plain w).1.mpr (by decide),
    ((run_verdict s "a.svg" "a.png" _ .plain w).2.1 hThere).mpr (by decide),
    ((run_verdict s "a.svg" "a.png" _ .plain w).2.2.1 hThere (by decide)).mpr (by decide), ?_⟩
  obtain ⟨-, content, hRead, hDecoded⟩ :=
    (run_verdict s "a.svg" "a.png" none .plain w).2.2.2.2 _ hDone
  have hRoom := hDecoded Png.Choices.lossless_plain Codec.byteOf16 Codec.maxMemory
  rw [if_pos (by decide)] at hRoom
  obtain ⟨decoded, hContent, hSize⟩ := hRoom
  exact ⟨content, decoded, hRead, hContent, hSize⟩

end Convert
end Iconsmith
