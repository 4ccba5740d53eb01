import Iconsmith.Proofs.Canvas.Composition
import Iconsmith.Proofs.Convert.Verdict
import Iconsmith.Shrink

/-! The limit on pixels and the images that are written. A conversion compares
the limit with the size it is asked for; shrinking compares it with the size of
its source only. -/
namespace Iconsmith

open Iconsmith.Action

/-- A conversion writes an image of the effective size, which is within the limit. -/
theorem Convert.written_of_steps {s : Settings} {svg png : String} {size : Option Size}
    {choices : Png.Choices} {made : Size} {w w' : World}
    (h : (steps s svg png size choices).perform w = (.done made, w')) :
    ∃ image, w'.files.read png = .ok (Png.encode image choices) ∧
      image.size = size.getD s.defaultSize ∧ image.area ≤ s.maxDecodedPixels.toNat := by
  obtain ⟨hThere, hSize⟩ := checked_of_done h
  obtain ⟨hMade, image, hRead, hImage⟩ := written_of_checked hThere hSize h
  obtain ⟨-, hLimit⟩ := checkSize_eq_ok.mp hSize
  rw [← hMade, ← hImage] at hLimit
  exact ⟨image, hRead, hImage.trans hMade, hLimit⟩

/-- A request that is too large is refused before anything is drawn. -/
theorem Convert.perform_steps_of_lt {s : Settings} {svg png : String} {size : Option Size}
    {w : World} (hThere : w.files.exists? svg = true)
    (hLimit : s.maxDecodedPixels.toNat < (size.getD s.defaultSize).area) (choices : Png.Choices) :
    (steps s svg png size choices).perform w =
      (.failed (.outputTooLarge (size.getD s.defaultSize).area s.maxDecodedPixels.toNat), w) :=
  perform_steps_of_checkSize png choices hThere (checkSize_of_lt hLimit)

/-- The canvas is as large as the settings say, whatever is put on it. -/
theorem Canvas.size_of_fit {s : Settings} {image canvas : Bitmap} {plan : FitPlan} {w w' : World}
    (h : (fit s image).perform w = (.done (canvas, plan), w')) :
    canvas.size = ⟨s.canvasSize, s.canvasSize⟩ := by
  unfold fit at h
  obtain ⟨-, h⟩ := done_of_guard h
  obtain ⟨_, u, -, h⟩ := done_of_bind h
  split at h
  · simp at h
  · obtain ⟨_, v, -, h⟩ := done_of_bind h
    split at h
    · simp at h
    · simp only [perform_pure, Prod.mk.injEq, Ending.done.injEq] at h
      obtain ⟨⟨rfl, rfl⟩, -⟩ := h
      rfl

/-- An icon is written in the size of the canvas, whatever the limit is. -/
theorem Shrink.written_of_steps {s : Settings} {input output : String} {choices : Png.Choices}
    {plan : FitPlan} {w w' : World}
    (h : (steps s input output choices).perform w = (.done plan, w')) :
    ∃ image, w'.files.read output = .ok (Png.encode image choices) ∧
      image.size = ⟨s.canvasSize, s.canvasSize⟩ := by
  obtain ⟨source, v, -, h⟩ := done_of_bind h
  obtain ⟨⟨canvas, plan'⟩, u, hFit, h⟩ := done_of_bind h
  obtain ⟨_, x, hSaved, hPlan⟩ := done_of_bind h
  simp only [perform_pure, Prod.mk.injEq] at hPlan
  exact ⟨canvas, hPlan.2 ▸ Saving.read_of_savePng hSaved, Canvas.size_of_fit hFit⟩

/-- A conversion that succeeds has written an image of the size it was asked
for, which is within the limit, and a request beyond the limit is refused for
that reason and changes no file. Shrinking that succeeds has written an image of the
size of the canvas, which is within the limit if and only if the canvas is:
nothing else keeps it there. -/
theorem Settings.limit_of_written (s : ValidSettings) (choices : Png.Choices) (w : World) :
    let limit := s.val.maxDecodedPixels.toNat
    (∀ svg png size made w', (Convert.run s svg png size choices).perform w = (.done made, w') →
      ∃ image, w'.files.read png = .ok (Png.encode image choices) ∧
        image.size = size.getD s.val.defaultSize ∧ image.area ≤ limit) ∧
    (∀ svg png size, w.files.exists? svg = true → limit < (size.getD s.val.defaultSize).area →
      ∃ f w', (Convert.run s svg png size choices).perform w = (.failed f, w') ∧
        f.kind = .resourceLimit ∧ w'.files = w.files) ∧
    ∀ input output plan w', (Shrink.run s input output choices).perform w = (.done plan, w') →
      ∃ image, w'.files.read output = .ok (Png.encode image choices) ∧
        image.size = ⟨s.val.canvasSize, s.val.canvasSize⟩ ∧
        (image.area ≤ limit ↔ s.val.canvasSize.toNat ^ 2 ≤ limit) := by
  intro limit
  refine ⟨fun svg png size made w' hDone => ?_, fun svg png size hThere hLimit => ?_,
    fun input output plan w' hDone => ?_⟩
  · obtain ⟨v, hSteps, hFiles⟩ := done_of_reported hDone
    rw [hFiles]
    exact Convert.written_of_steps hSteps
  · rw [Convert.run, perform_reported, Convert.perform_steps_of_lt hThere hLimit choices]
    exact ⟨_, _, rfl, rfl, rfl⟩
  · obtain ⟨v, hSteps, hFiles⟩ := done_of_reported hDone
    obtain ⟨image, hRead, hSize⟩ := Shrink.written_of_steps hSteps
    refine ⟨image, hFiles ▸ hRead, hSize, ?_⟩
    have hArea : image.area = s.val.canvasSize.toNat ^ 2 := by
      rw [show image.area = image.size.area from rfl, hSize, Size.area, sq]
    rw [hArea]

/-- At most a thousand pixels, without enlarging. -/
def Settings.thousandPixels : ValidSettings :=
  ⟨{ Settings.default with allowUpscale := false, maxDecodedPixels := 1000 }, by decide⟩

/-- A farbfeld file of one black pixel. -/
def onePixelWorld : World :=
  ⟨⟨[(["work", "a.ff"], .file ⟨#[0x66, 0x61, 0x72, 0x62, 0x66, 0x65, 0x6C, 0x64, 0, 0, 0, 1, 0, 0,
    0, 1, 0, 0, 0, 0, 0, 0, 0xFF, 0xFF]⟩), (["work"], .directory)], ["work"]⟩, []⟩

theorem Shrink.perform_run_onePixel : ∃ plan w',
    (run Settings.thousandPixels "a.ff" "b.png" .plain).perform onePixelWorld =
      (.done plan, w') := by
  have hDone : ((run Settings.thousandPixels "a.ff" "b.png" .plain).perform onePixelWorld).1 =
      .done ⟨.finite .one, ⟨1, 1⟩, 15, 15⟩ := by decide +kernel
  exact ⟨_, _, Prod.ext hDone rfl⟩

/-- With a limit of a thousand pixels a conversion to 32 by 32 is refused, and
shrinking a single pixel writes 32 by 32. -/
theorem Settings.limit_of_written_thousand :
    (∃ f w', (Convert.run thousandPixels "a.ff" "b.png" (some ⟨32, 32⟩) .plain).perform
      onePixelWorld = (.failed f, w') ∧ f.kind = .resourceLimit ∧ w'.files = onePixelWorld.files) ∧
    ∃ image plan w', (Shrink.run thousandPixels "a.ff" "b.png" .plain).perform onePixelWorld =
      (.done plan, w') ∧ w'.files.read "b.png" = .ok (Png.encode image .plain) ∧
        image.size = ⟨32, 32⟩ := by
  obtain ⟨-, hRefused, hWritten⟩ := limit_of_written thousandPixels .plain onePixelWorld
  refine ⟨hRefused "a.ff" "b.png" (some ⟨32, 32⟩) (by decide) (by decide), ?_⟩
  obtain ⟨plan, w', hDone⟩ := Shrink.perform_run_onePixel
  obtain ⟨image, hRead, hSize, -⟩ := hWritten _ _ _ _ hDone
  exact ⟨image, plan, w', hDone, hRead, hSize⟩

/-- So the limit does not bound every image that is written: shrinking leaves a
file with 1024 pixels where 1000 are allowed. -/
theorem Settings.limit_not_always_kept :
    ¬∀ (s : ValidSettings) (input output : String) (w : World) (plan : FitPlan) (w' : World),
      (Shrink.run s input output .plain).perform w = (.done plan, w') →
        ∀ image, w'.files.read output = .ok (Png.encode image .plain) →
          image.area ≤ s.val.maxDecodedPixels.toNat := by
  intro hKept
  obtain ⟨plan, w', hDone⟩ := Shrink.perform_run_onePixel
  obtain ⟨v, hSteps, hFiles⟩ := done_of_reported hDone
  obtain ⟨image, hRead, hSize⟩ := Shrink.written_of_steps hSteps
  have hLimit := hKept _ _ _ _ plan w' hDone image (hFiles ▸ hRead)
  rw [show image.area = image.size.area from rfl, hSize] at hLimit
  exact absurd hLimit (by decide)

end Iconsmith
