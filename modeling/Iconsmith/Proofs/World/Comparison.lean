import Iconsmith.Proofs.Files.Agreement

/-! Two runs side by side, on worlds whose files are related in some way. The
reports of the two may differ. What they see of the files must not, where it
decides how they go on. -/
namespace Iconsmith.Action

variable {ε α β : Type} {R : Files.Tree → Files.Tree → Prop}

/-- On related files both actions end in the same way and leave related files. -/
def Matched (R : Files.Tree → Files.Tree → Prop) (a b : Action ε α) : Prop :=
  ∀ w w', R w.files w'.files →
    (b.perform w').1 = (a.perform w).1 ∧ R (a.perform w).2.files (b.perform w').2.files

theorem matched_pure (r : α) : Matched R (pure r : Action ε α) (pure r) := fun _ _ h => ⟨rfl, h⟩

theorem matched_throw (e : ε) : Matched R (throw e : Action ε α) (throw e) :=
  fun _ _ h => ⟨rfl, h⟩

theorem matched_crash (c : Crash) : Matched R (crash c : Action ε α) (crash c) :=
  fun _ _ h => ⟨rfl, h⟩

theorem matched_report (level : Level) (origin : Origin) (text : String) :
    Matched R (report level origin text : Action ε Unit) (report level origin text) :=
  fun _ _ h => ⟨rfl, h⟩

/-- Trees may be replaced by trees that are related again. -/
theorem matched_setFiles {t t' : Files.Tree} (h : R t t') :
    Matched R (setFiles t : Action ε Unit) (setFiles t') :=
  fun _ _ _ => ⟨rfl, h⟩

/-- Actions match step by step, as both sides go on with the same result. -/
theorem Matched.bind {a b : Action ε α} {f g : α → Action ε β} (hFirst : Matched R a b)
    (hNext : ∀ r, Matched R (f r) (g r)) : Matched R (a >>= f) (b >>= g) := by
  intro w w' h
  obtain ⟨hEnding, hFiles⟩ := hFirst w w' h
  rw [perform_bind, perform_bind]
  cases hOld : a.perform w with
  | mk ending v =>
      cases hNew : b.perform w' with
      | mk ending' v' =>
          rw [hOld, hNew] at hEnding hFiles
          obtain rfl : ending' = ending := hEnding
          cases ending' with
          | done r => exact hNext r v v' hFiles
          | failed e => exact ⟨rfl, hFiles⟩
          | crashed c => exact ⟨rfl, hFiles⟩

/-- What is done with the files may depend on them as long as it is matched. -/
theorem matched_files_bind {f g : Files.Tree → Action ε β}
    (h : ∀ t t', R t t' → Matched R (f t) (g t')) :
    Matched R (files >>= f) (files >>= g) :=
  fun w w' hFiles => h w.files w'.files hFiles w w' hFiles

/-- A step that is only taken under a condition. -/
theorem Matched.optional {c : Prop} [Decidable c] {a b : Action ε PUnit}
    {f g : PUnit → Action ε β} (hFirst : Matched R a b) (hNext : ∀ u, Matched R (f u) (g u)) :
    Matched R (if c then a >>= f else f ⟨⟩) (if c then b >>= g else g ⟨⟩) := by
  split
  · exact hFirst.bind hNext
  · exact hNext _

/-- The records of an action depend on its ending alone. -/
theorem Matched.reported {a b : Action ε α} (h : Matched R a b) (origin : Origin)
    (success : α → String) (failure : ε → String) :
    Matched R (reported origin success failure a) (reported origin success failure b) := by
  intro w w' hFiles
  rw [ending_reported, ending_reported, files_reported, files_reported]
  exact h w w' hFiles

theorem Matched.operation {a b : Action Failure α} (h : Matched R a b) :
    Matched R (Command.operation a) (Command.operation b) := by
  intro w w' hFiles
  rw [ending_operation, ending_operation, files_operation, files_operation]
  exact (h w w' hFiles).imp (congrArg _) id

end Iconsmith.Action

namespace Iconsmith

open Iconsmith.Action

variable {R : Files.Tree → Files.Tree → Prop}

/-- A bitmap is the same on all files on which its path leads to the same. -/
theorem Loading.matched_readFile (s : Settings) {path : String}
    (hLocate : ∀ t t', R t t' → t'.locate path = t.locate path) :
    Matched R (readFile s path) (readFile s path) := by
  refine (matched_report _ _ _).bind fun _ => matched_files_bind fun t t' h => ?_
  rw [hLocate t t' h]
  split
  · exact matched_throw _
  · exact matched_throw _
  · refine (matched_throw _).optional fun _ => (matched_throw _).optional fun _ => ?_
    refine (matched_report _ _ _).optional fun _ => ?_
    split
    · exact matched_pure _
    · exact matched_throw _

/-- An image is loaded alike from trees where its path leads to the same entry. -/
theorem Loading.matched_load (s : Settings) {path : String}
    (hLocate : ∀ t t', R t t' → t'.locate path = t.locate path) :
    Matched R (load s path) (load s path) := by
  refine (matched_readFile s hLocate).bind fun raw => ?_
  split
  · exact matched_pure _
  · exact matched_throw _

/-- What does not look at files is the same on all of them. -/
theorem Canvas.matched_fit (s : Settings) (image : Bitmap) :
    Matched R (fit s image) (fit s image) := by
  refine (matched_throw _).optional fun _ => (matched_report _ _ _).bind fun _ => ?_
  split
  · exact matched_crash _
  · refine (matched_report _ _ _).bind fun _ => ?_
    split
    · exact matched_crash _
    · exact matched_pure _

section Avoiding

open Files

variable {hidden : Place → Prop} {path : String} (hR : Blind hidden R)
  (hAvoids : ∀ t t', R t t' → t.Avoids path hidden)

include hR hAvoids

/-- The directory of a file is created in both, or refused in both for the same reason. -/
theorem Saving.matched_prepareDirectory :
    Matched R (prepareDirectory path) (prepareDirectory path) := by
  unfold prepareDirectory
  split
  · exact matched_pure _
  · next above hAbove =>
    refine matched_files_bind fun t t' h => ?_
    have hHigher := (hAvoids t t' h).parent hAbove
    have hCreated := hR.createAll h hHigher
    rw [(hR.resembles h).exists?_eq hHigher]
    split
    · exact matched_pure _
    · cases hOld : t.createAll above with
      | mk u reason =>
          cases hNew : t'.createAll above with
          | mk u' reason' =>
              rw [hOld, hNew] at hCreated
              obtain ⟨rfl, hRelated⟩ := hCreated
              refine (matched_setFiles hRelated).bind fun _ => ?_
              cases reason' with
              | some e => exact matched_throw _
              | none => exact matched_pure _

/-- An image is written outside of the hidden part, or refused for the same reason. -/
theorem Saving.matched_savePng (image : Bitmap) (choices : Png.Choices) :
    Matched R (savePng image path choices) (savePng image path choices) := by
  refine (matched_prepareDirectory hR hAvoids).bind fun _ => matched_files_bind fun t t' h => ?_
  have hWrite := hR.write h (hAvoids t t' h) (Png.encode image choices)
  cases hOld : t.write path (Png.encode image choices) with
  | error e =>
      simp only [(hOld ▸ hWrite).of_error]
      exact matched_throw _
  | ok u =>
      obtain ⟨u', hNew, hRelated⟩ := (hOld ▸ hWrite).of_ok
      simp only [hNew]
      exact matched_setFiles hRelated

end Avoiding

end Iconsmith
