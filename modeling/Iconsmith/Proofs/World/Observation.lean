import Iconsmith.Command.Run
import Iconsmith.Proofs.Files.Tree
import Iconsmith.Proofs.Settings.Store
import Iconsmith.Saving

/-! What actions leave alone, and what their results tell. An observation is a
function of the world, such as its files or the errors reported so far. An action
that keeps it does so on every way it can end, so that sequences need no case
analysis of their own. All parts of an action with a result have one, and what it
wrote can be read. -/
namespace Iconsmith

/-- The errors among the reports, in order. -/
def World.errors (w : World) : List Record := w.log.filter fun r => r.level = .error

/-- The same ending with another error. -/
def Ending.mapError {ε δ α : Type} (f : ε → δ) : Ending ε α → Ending δ α
  | .done r => .done r
  | .failed e => .failed (f e)
  | .crashed c => .crashed c

namespace Action

variable {ε α β γ : Type} {f : World → γ}

section Wrapped

variable (w : World)

/-- A reported operation ends as its steps do. -/
theorem ending_reported (origin : Origin) (success : α → String) (failure : ε → String)
    (a : Action ε α) : ((reported origin success failure a).perform w).1 = (a.perform w).1 := by
  rw [perform_reported]
  cases a.perform w with
  | mk ending v => cases ending <;> rfl

theorem files_reported (origin : Origin) (success : α → String) (failure : ε → String)
    (a : Action ε α) :
    ((reported origin success failure a).perform w).2.files = (a.perform w).2.files := by
  rw [perform_reported]
  cases a.perform w with
  | mk ending v => cases ending <;> rfl

/-- An operation of a command ends as it does alone, up to the name of its failure. -/
theorem ending_operation (a : Action Failure α) :
    ((Command.operation a).perform w).1 = (a.perform w).1.mapError .icon := by
  rw [Command.perform_operation]
  cases a.perform w with
  | mk ending v => cases ending <;> rfl

theorem files_operation (a : Action Failure α) :
    ((Command.operation a).perform w).2.files = (a.perform w).2.files := by
  rw [Command.perform_operation]
  cases a.perform w with
  | mk ending v => cases ending <;> rfl

end Wrapped

/-- The observation is the same before and after, also if the action fails or
crashes. -/
def Keeps (f : World → γ) (a : Action ε α) : Prop := ∀ w, f (a.perform w).2 = f w

/-- Only the errors among the reports can change the observation. -/
def Unmoved (f : World → γ) : Prop :=
  ∀ (w : World) (r : Record), r.level ≠ .error → f { w with log := w.log ++ [r] } = f w

theorem unmoved_files : Unmoved World.files := fun _ _ _ => rfl

/-- A report that is no error does not add to the errors. -/
theorem unmoved_errors : Unmoved World.errors := by
  intro w r hLevel
  simp [World.errors, hLevel]

theorem keeps_pure (r : α) : (pure r : Action ε α).Keeps f := fun _ => rfl

theorem keeps_throw (e : ε) : (throw e : Action ε α).Keeps f := fun _ => rfl

theorem keeps_crash (c : Crash) : (crash c : Action ε α).Keeps f := fun _ => rfl

theorem keeps_files : (files : Action ε Files.Tree).Keeps f := fun _ => rfl

/-- A report that is no error keeps what only errors can change. -/
theorem keeps_report (hf : Unmoved f) {level : Level} (hLevel : level ≠ .error) (origin : Origin)
    (text : String) : (report level origin text : Action ε Unit).Keeps f :=
  fun w => hf w ⟨level, origin, text⟩ hLevel

theorem keeps_setFiles_errors (t : Files.Tree) :
    (setFiles t : Action ε Unit).Keeps World.errors := fun _ => rfl

/-- Steps keep an observation if each of them does, wherever they end. -/
theorem Keeps.bind {a : Action ε α} {next : α → Action ε β} (ha : a.Keeps f)
    (hNext : ∀ r, (next r).Keeps f) : (a >>= next).Keeps f := by
  intro w
  have hFirst := ha w
  rw [perform_bind]
  cases h : a.perform w with
  | mk ending w' =>
      rw [h] at hFirst
      cases ending with
      | done r => exact (hNext r w').trans hFirst
      | failed e => exact hFirst
      | crashed c => exact hFirst

/-- A step that is only taken under a condition. -/
theorem Keeps.optional {c : Prop} [Decidable c] {a : Action ε PUnit} {next : PUnit → Action ε β}
    (ha : a.Keeps f) (hNext : ∀ u, (next u).Keeps f) :
    (if c then a >>= next else next ⟨⟩).Keeps f := by
  split
  · exact ha.bind hNext
  · exact hNext _

end Action

open Iconsmith.Action

theorem Settings.keeps_validOrFail {γ : Type} (f : World → γ) (s : Settings) :
    (validOrFail s).Keeps f := by
  unfold validOrFail
  split
  · exact keeps_pure _
  · exact keeps_throw _

section Observed

variable {γ : Type} {f : World → γ} (hf : Unmoved f)

include hf

namespace Settings

/-- Loading settings adds one report, which is no error. -/
theorem keeps_load {ε : Type} (path : String) : (load path : Action ε Settings).Keeps f := by
  intro w
  obtain ⟨r, hLevel, hLoad⟩ := perform_load (ε := ε) path w
  rw [hLoad]
  exact hf w r hLevel

end Settings

namespace Loading

/-- A bitmap is read without changing anything, also if it is refused. -/
theorem keeps_readFile (s : Settings) (path : String) : (readFile s path).Keeps f := by
  refine (keeps_report hf (by decide) _ _).bind fun _ => keeps_files.bind fun t => ?_
  split
  · exact keeps_throw _
  · exact keeps_throw _
  · next content _ =>
    refine (keeps_throw _).optional fun _ => (keeps_throw _).optional fun _ => ?_
    refine (keeps_report hf (by decide) _ _).optional fun _ => ?_
    split
    · exact keeps_pure _
    · exact keeps_throw _

theorem keeps_load (s : Settings) (path : String) : (load s path).Keeps f := by
  refine (keeps_readFile hf s path).bind fun content => ?_
  split
  · exact keeps_pure _
  · exact keeps_throw _

end Loading

namespace Canvas

/-- Fitting an image reports its sizes and changes nothing else. -/
theorem keeps_fit (s : Settings) (image : Bitmap) : (fit s image).Keeps f := by
  refine (keeps_throw _).optional fun _ => (keeps_report hf (by decide) _ _).bind fun _ => ?_
  split
  · exact keeps_crash _
  · refine (keeps_report hf (by decide) _ _).bind fun _ => ?_
    split
    · exact keeps_crash _
    · exact keeps_pure _

end Canvas
end Observed

/-! ### Actions with a result -/

namespace Action

variable {ε α β : Type} {w w' : World}

/-- A sequence with a result has one for both of its parts. -/
theorem done_of_bind {a : Action ε α} {next : α → Action ε β} {r : β}
    (h : (a >>= next).perform w = (.done r, w')) :
    ∃ q v, a.perform w = (.done q, v) ∧ (next q).perform v = (.done r, w') := by
  rw [perform_bind] at h
  cases hFirst : a.perform w with
  | mk ending v =>
      rw [hFirst] at h
      cases ending with
      | failed e => simp at h
      | crashed c => simp at h
      | done q => exact ⟨q, v, rfl, h⟩

/-- A check that refuses under a condition has let a run with a result pass. -/
theorem done_of_guard {c : Prop} [Decidable c] {e : ε} {next : PUnit → Action ε β} {r : β}
    (h : (if c then throw e >>= next else next ⟨⟩).perform w = (.done r, w')) :
    ¬c ∧ (next ⟨⟩).perform w = (.done r, w') := by
  split at h
  · simp at h
  · next hPassed => exact ⟨hPassed, h⟩

/-- The steps of a reported operation that has a result have the same result,
and the files are as they left them. -/
theorem done_of_reported {origin : Origin} {success : α → String} {failure : ε → String}
    {steps : Action ε α} {r : α}
    (h : (reported origin success failure steps).perform w = (.done r, w')) :
    ∃ v, steps.perform w = (.done r, v) ∧ w'.files = v.files := by
  rw [perform_reported] at h
  cases hSteps : steps.perform w with
  | mk ending v =>
      rw [hSteps] at h
      cases ending with
      | failed e => simp at h
      | crashed c => simp at h
      | done r' =>
          simp only [Prod.mk.injEq, Ending.done.injEq] at h
          obtain ⟨rfl, rfl⟩ := h
          exact ⟨v, rfl, rfl⟩

/-- After some preparation one file is written, and then it holds what was to be
written, whatever it held before. -/
theorem read_of_write {path : String} {content : ByteArray} {prepare : Action ε α}
    {error : Files.OsError → ε}
    (h : (do
      let _ ← prepare
      match (← files).write path content with
        | .ok t => setFiles t
        | .error e => throw (error e) : Action ε Unit).perform w = (.done (), w')) :
    w'.files.read path = .ok content := by
  obtain ⟨_, v, -, h⟩ := done_of_bind h
  simp only [perform_bind, perform_files] at h
  cases hWrite : v.files.write path content with
  | error e => simp [hWrite] at h
  | ok t =>
      simp only [hWrite, perform_setFiles, Prod.mk.injEq, true_and] at h
      rw [← h]
      exact Files.Tree.read_write hWrite

end Action

/-- A saved image is the whole content of its file. -/
theorem Saving.read_of_savePng {image : Bitmap} {path : String} {choices : Png.Choices}
    {w w' : World} (h : (savePng image path choices).perform w = (.done (), w')) :
    w'.files.read path = .ok (Png.encode image choices) := by
  unfold savePng at h
  exact Action.read_of_write h

end Iconsmith
