import Iconsmith.Proofs.Settings.Merging
import Iconsmith.Proofs.Settings.RoundTrip
import Iconsmith.Proofs.World.Observation

/-! Arguments replace settings of the file, and what results is validated before
anything else happens. So the arguments can repair the settings of a file and can
spoil them, and no operation starts on settings that are refused. -/
namespace Iconsmith

open Iconsmith.Action

namespace Command

/-- The settings that the arguments of a command name. -/
def named (c : Command) (f : Settings.Field) : Option f.Value :=
  match f, c with
  | .drawing, convert _ _ _ fromFile => if fromFile then some Drawing.file else none
  | .filter, shrink _ _ filter _ _ => filter
  | .canvasSize, shrink _ _ _ canvas _ => canvas
  | .allowUpscale, shrink _ _ _ _ noUpscale => if noUpscale then some false else none
  | _, _ => none

/-- The settings of a command when the file has these. -/
def override (s : Settings) : Command → Settings
  | convert _ _ _ fromFile => s.forConvert fromFile
  | shrink _ _ filter canvas noUpscale => s.forShrink filter canvas noUpscale
  | initConfig _ => s

/-- The operation on icons that a command runs. -/
def operate (s : ValidSettings) (choices : Png.Choices) : Command → Action Failure Unit
  | convert svg png size _ => do let _ ← Convert.run s svg png size choices
  | shrink input output _ _ _ => do let _ ← Shrink.run s input output choices
  | initConfig _ => pure ()

variable {c : Command} {config : String} {w : World} {s : Settings}

/-- What the arguments name is replaced, everything else is kept. -/
theorem get_override (c : Command) (s : Settings) (f : Settings.Field) :
    (c.override s).get f = (c.named f).getD (s.get f) := by
  cases c with
  | convert svg png size fromFile => cases fromFile <;> cases f <;> rfl
  | shrink input output filter canvas noUpscale =>
      cases f with
      | allowUpscale =>
          cases noUpscale with
          | false => exact Bool.and_true s.allowUpscale
          | true => exact Bool.and_false s.allowUpscale
      | _ => rfl
  | initConfig force => cases f <;> rfl

/-- A canvas among the arguments counts, and that of the file does not. -/
theorem valid_override {n : UInt32} (h : c.named .canvasSize = some n) :
    (c.override s).Valid ↔ n ≠ 0 ∧ ∃ m, { s with canvasSize := m }.Valid := by
  cases c with
  | convert svg png size fromFile => cases fromFile <;> exact nomatch h
  | initConfig force => exact nomatch h
  | shrink input output filter canvas noUpscale =>
      obtain rfl : canvas = some n := h
      constructor
      · rintro ⟨hWidth, hHeight, hCanvas, hLimits⟩
        exact ⟨hCanvas, n, hWidth, hHeight, hCanvas, hLimits⟩
      · rintro ⟨hCanvas, m, hWidth, hHeight, -, hLimits⟩
        exact ⟨hWidth, hHeight, hCanvas, hLimits⟩

theorem perform_operation_map {α : Type} (a : Action Failure α) (w : World) :
    (do let _ ← operation a).perform w =
      (((do let _ ← a : Action Failure Unit).perform w).1.mapError .icon,
        ((do let _ ← a : Action Failure Unit).perform w).2) := by
  simp only [perform_bind, perform_operation]
  cases a.perform w with
  | mk ending w' => cases ending <;> rfl

/-- A failed operation is no complaint about settings. -/
theorem mapError_icon_ne (ending : Ending Failure Unit) (reason : String) :
    ending.mapError CommandError.icon ≠ .failed (.settings reason) := by
  cases ending <;> exact nofun

/-- A command on icons is its operation behind the validation of its settings. -/
theorem perform_run (hIcon : ∀ force, c ≠ .initConfig force) {loaded : Settings} {w₀ : World}
    (hLoad : (Settings.load config : Action CommandError Settings).perform w = (.done loaded, w₀))
    (choices : Png.Choices) :
    (c.run config choices).perform w = match (c.override loaded).validate with
      | .error f => (.failed (.settings f.message), w₀)
      | .ok v => (((c.operate v choices).perform w₀).1.mapError .icon,
          ((c.operate v choices).perform w₀).2) := by
  cases c with
  | initConfig force => exact absurd rfl (hIcon force)
  | convert svg png size fromFile =>
      rw [run, perform_bind, hLoad]
      dsimp only
      rw [perform_bind, Settings.validOrFail, override]
      cases (loaded.forConvert fromFile).validate with
      | error f => rfl
      | ok v => exact perform_operation_map (Convert.run v svg png size choices) w₀
  | shrink input output filter canvas noUpscale =>
      rw [run, perform_bind, hLoad]
      dsimp only
      rw [perform_bind, Settings.validOrFail, override]
      cases (loaded.forShrink filter canvas noUpscale).validate with
      | error f => rfl
      | ok v => exact perform_operation_map (Shrink.run v input output choices) w₀

end Command

/-- The settings of the file, with what the arguments name replaced, decide: refused by
the validation they end the run with its complaint, and no file is changed. Accepted
they are what the operation works with, and the run ends as the operation does. A
canvas among the arguments repairs or spoils what the file says about it. -/
theorem Invocation.run_overridden (i : Invocation) (choices : Png.Choices) (w : World)
    (hIcon : ∀ force, i.effective ≠ .initConfig force) :
    ∃ (loaded s : Settings) (w₀ : World),
      (Settings.load i.config : Action CommandError Settings).perform w = (.done loaded, w₀) ∧
      w₀.files = w.files ∧
      (∀ f, s.get f = (i.effective.named f).getD (loaded.get f)) ∧
      ((∃ reason, ((i.run choices).perform w).1 = .failed (.settings reason)) ↔
        ∃ f, s.validate = .error f) ∧
      (∀ f, s.validate = .error f →
        (i.run choices).perform w = (.failed (.settings f.message), w₀)) ∧
      (∀ v, s.validate = .ok v → (i.run choices).perform w =
        (((i.effective.operate v choices).perform w₀).1.mapError .icon,
          ((i.effective.operate v choices).perform w₀).2)) ∧
      ∀ n : UInt32, i.effective.named .canvasSize = some n →
        (s.Valid ↔ n ≠ 0 ∧ ∃ m, { loaded with canvasSize := m }.Valid) := by
  obtain ⟨r, -, hLoad⟩ := Settings.perform_load (ε := CommandError) i.config w
  let loaded := Settings.stored w.files i.config
  let w₀ : World := { w with log := w.log ++ [r] }
  have hRun : (i.run choices).perform w = _ := Command.perform_run hIcon hLoad choices
  refine ⟨loaded, i.effective.override loaded, w₀, hLoad, rfl,
    Command.get_override i.effective loaded, ?_, ?_, ?_, fun n => Command.valid_override⟩
  · rw [hRun]
    cases hValid : (i.effective.override loaded).validate with
    | error f => exact ⟨fun _ => ⟨f, rfl⟩, fun _ => ⟨f.message, rfl⟩⟩
    | ok v =>
        exact ⟨fun ⟨reason, hReason⟩ => absurd hReason (Command.mapError_icon_ne _ reason), nofun⟩
  · intro f hRefused
    rw [hRun, hRefused]
  · intro v hAccepted
    rw [hRun, hAccepted]

/-- A file with an empty canvas, and a canvas among the arguments. -/
theorem Invocation.run_overridden_repaired :
    let broken : Settings := { Settings.default with canvasSize := 0 }
    let w := Settings.fileWorld broken.print
    let i : Invocation := ⟨"c.json", some (.shrink "a.png" "b.png" none (some 16) false)⟩
    ((Settings.load "c.json" : Action CommandError Settings).perform w).1 = .done broken ∧
      ¬broken.Valid ∧ ¬∃ reason, ((i.run .plain).perform w).1 = .failed (.settings reason) := by
  intro broken w i
  have hBroken : ((Settings.load "c.json" : Action CommandError Settings).perform w).1 =
      .done broken := by
    rw [Settings.load_eq_stored, Settings.stored_of_text (Settings.read_fileWorld broken.print),
      Settings.read_print]
    rfl
  obtain ⟨loaded, s, w₀, hLoad, -, -, hRefused, -, -, hCanvas⟩ :=
    i.run_overridden .plain w (by intro force hInit; exact nomatch hInit)
  rw [hLoad] at hBroken
  obtain rfl : loaded = broken := Ending.done.inj hBroken
  have hValid : s.Valid := (hCanvas 16 rfl).mpr ⟨by decide, 1, by decide⟩
  refine ⟨congrArg Prod.fst hLoad, by decide, ?_⟩
  rw [hRefused, Settings.validate, dif_pos hValid]
  exact nofun

end Iconsmith
