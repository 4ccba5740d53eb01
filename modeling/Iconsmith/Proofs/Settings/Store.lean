import Iconsmith.Settings.Store

/-! What loading the settings file amounts to: a function of the files, and one
report that is no error. -/
namespace Iconsmith.Settings

open Iconsmith.Action

/-- The settings that a file stands for. Without a file, without a text in it
and without settings in the text they are the defaults. -/
def stored (t : Files.Tree) (path : String) : Settings :=
  match readText t path with
  | .error _ => .default
  | .ok text => (read text.toList).toOption.getD .default

theorem readText_of_not_exists {t : Files.Tree} {path : String} (h : t.exists? path = false) :
    ∃ reason, readText t path = .error reason := by
  unfold Files.Tree.exists? at h
  cases hLocated : t.locate path with
  | ok found => simp [hLocated] at h
  | error e =>
      have hRead : t.read path = .error e := by simp [Files.Tree.read, hLocated]
      exact ⟨e.message, by simp [readText, hRead]⟩

theorem fromUTF8?_toUTF8 (text : String) : String.fromUTF8? text.toUTF8 = some text := by
  have hValid : text.toUTF8.IsValidUTF8 := text.isValidUTF8
  rw [String.fromUTF8?, dif_pos hValid]
  rfl

/-- A content is that of one text at most. -/
theorem toUTF8_injective {text text' : String} (h : text.toUTF8 = text'.toUTF8) : text = text' := by
  have hSame := fromUTF8?_toUTF8 text
  rw [h, fromUTF8?_toUTF8] at hSame
  exact (Option.some.inj hSame).symm

/-- The settings are those that the text of the file gives, or else the default ones. -/
theorem stored_of_text {t : Files.Tree} {path text : String}
    (h : t.read path = .ok text.toUTF8) :
    stored t path = (read text.toList).toOption.getD .default := by
  simp only [stored, readText, h, fromUTF8?_toUTF8]

/-- A file without settings in it stands for the defaults. -/
theorem stored_of_no_settings {t : Files.Tree} {path : String} {content : ByteArray}
    (h : t.read path = .ok content)
    (hNone : ∀ text : String, text.toUTF8 = content → ∀ s, read text.toList ≠ .ok s) :
    stored t path = .default := by
  simp only [stored, readText, h]
  cases hText : String.fromUTF8? content with
  | none => rfl
  | some text =>
      have hContent : text.toUTF8 = content := by
        unfold String.fromUTF8? at hText
        split at hText
        · obtain rfl := Option.some.inj hText
          rfl
        · exact nomatch hText
      simp only
      cases hRead : read text.toList with
      | error f => rfl
      | ok s => exact absurd hRead (hNone text hContent s)

/-- Loading never fails and changes nothing; it makes a single report. -/
theorem perform_load {ε : Type} (path : String) (w : World) :
    ∃ r : Record, r.level ≠ .error ∧ (load path : Action ε Settings).perform w =
      (.done (stored w.files path), { w with log := w.log ++ [r] }) := by
  simp only [load, perform_bind, perform_files, stored]
  cases hExists : w.files.exists? path with
  | false =>
      obtain ⟨reason, hText⟩ := readText_of_not_exists hExists
      simp only [hText]
      exact ⟨⟨.debug, .settings, _⟩, by simp, rfl⟩
  | true =>
      cases readText w.files path with
      | error reason => exact ⟨⟨.warn, .settings, _⟩, by simp, rfl⟩
      | ok text =>
          simp only [parse]
          cases read text.toList with
          | error f => exact ⟨⟨.warn, .settings, _⟩, by simp, rfl⟩
          | ok s => exact ⟨⟨.info, .settings, _⟩, by simp, rfl⟩

/-- What starts with loading the settings goes on with what is stored in the
file. -/
theorem perform_load_bind {ε α : Type} (path : String) (next : Settings → Action ε α) (w : World) :
    ∃ log, (load path >>= next).perform w =
      (next (stored w.files path)).perform ⟨w.files, log⟩ := by
  obtain ⟨r, -, hLoad⟩ := perform_load (ε := ε) path w
  exact ⟨w.log ++ [r], by rw [perform_bind, hLoad]⟩

/-- Loading always ends, and with the stored settings. -/
theorem load_eq_stored {ε : Type} (path : String) (w : World) :
    ((load path : Action ε Settings).perform w).1 = .done (stored w.files path) := by
  obtain ⟨r, -, hLoad⟩ := perform_load (ε := ε) path w
  rw [hLoad]

end Iconsmith.Settings
