import Iconsmith.Proofs.Command.Neutrality
import Iconsmith.Proofs.Convert.Verdict
import Iconsmith.Proofs.Files.Repetition
import Iconsmith.Proofs.Png.RoundTrip
import Iconsmith.Proofs.Svg.References

/-! Running a command once more, on the files that its first run has left. What
it reads is what it has read before, unless that is the file that it has written;
what it prepares and writes is there already. -/
namespace Iconsmith

open Files Files.Tree

namespace Action

variable {ε α β : Type} {t t' : Tree}

/-- If the first action leads from one tree to another, the second one ends in
the same way on the other tree and leaves it as it is. -/
def Repeats (t t' : Tree) (a b : Action ε α) : Prop :=
  ∀ w w', w.files = t → w'.files = t' → (a.perform w).2.files = t' →
    (b.perform w').1 = (a.perform w).1 ∧ (b.perform w').2.files = t'

/-- The only two trees that are compared. -/
def Between (t t' u u' : Tree) : Prop := u = t ∧ u' = t'

theorem repeats_throw (e : ε) : Repeats t t' (throw e : Action ε α) (throw e) :=
  fun _ _ _ h' _ => ⟨rfl, h'⟩

/-- What is refused has changed nothing. -/
theorem repeats_refused {e : ε} {b : Action ε α} (h : t' = t → b = throw e) :
    Repeats t t' (throw e) b := by
  intro w w' hFiles hFiles' hAfter
  rw [h (hAfter.symm.trans hFiles)]
  exact ⟨rfl, hFiles'⟩

/-- Both actions go on with the files that they see. -/
theorem Repeats.files_bind {f g : Tree → Action ε β} (h : Repeats t t' (f t) (g t')) :
    Repeats t t' (files >>= f) (files >>= g) := by
  intro w w' hFiles hFiles' hAfter
  rw [perform_bind, perform_files] at hAfter ⊢
  rw [perform_bind, perform_files]
  subst hFiles hFiles'
  exact h w w' rfl rfl hAfter

/-- Both actions start with steps that are the same on both trees. -/
theorem Repeats.after {a b : Action ε α} {f g : α → Action ε β} (hFirst : Matched (Between t t') a b)
    (hNext : ∀ r, Repeats t t' (f r) (g r)) : Repeats t t' (a >>= f) (b >>= g) := by
  intro w w' hFiles hFiles' hAfter
  obtain ⟨hEnding, hOld, hNew⟩ := hFirst w w' ⟨hFiles, hFiles'⟩
  rw [perform_bind] at hAfter ⊢
  rw [perform_bind]
  cases ha : a.perform w with
  | mk ending v =>
      cases hb : b.perform w' with
      | mk ending' v' =>
          rw [ha] at hAfter hEnding hOld
          rw [hb] at hEnding hNew
          obtain rfl : ending' = ending := hEnding
          cases ending' with
          | done r => exact hNext r v v' hOld hNew hAfter
          | failed e => exact ⟨rfl, hNew⟩
          | crashed c => exact ⟨rfl, hNew⟩

/-- Both actions go on with steps that leave the files alone and end in the same
way whatever the files are. -/
theorem Repeats.before {a b : Action ε α} {f g : α → Action ε β} (hFirst : Repeats t t' a b)
    (hKeeps : ∀ r, (f r).Keeps World.files) (hNext : ∀ r, Matched (Between t' t') (f r) (g r)) :
    Repeats t t' (a >>= f) (b >>= g) := by
  intro w w' hFiles hFiles' hAfter
  rw [perform_bind] at hAfter ⊢
  rw [perform_bind]
  have hBoth := hFirst w w' hFiles hFiles'
  cases ha : a.perform w with
  | mk ending v =>
      cases hb : b.perform w' with
      | mk ending' v' =>
          rw [ha] at hAfter
          rw [ha, hb] at hBoth
          cases ending with
          | done r =>
              have hFiles : v.files = t' := (hKeeps r v).symm.trans hAfter
              obtain ⟨hEnding, hNew⟩ := hBoth hFiles
              obtain rfl : ending' = .done r := hEnding
              exact (hNext r v v' ⟨hFiles, hNew⟩).imp id fun hFiles => hFiles.2
          | failed e =>
              obtain ⟨hEnding, hNew⟩ := hBoth hAfter
              obtain rfl : ending' = .failed e := hEnding
              exact ⟨rfl, hNew⟩
          | crashed c =>
              obtain ⟨hEnding, hNew⟩ := hBoth hAfter
              obtain rfl : ending' = .crashed c := hEnding
              exact ⟨rfl, hNew⟩

/-- What is reported on either side does not count. -/
theorem Repeats.reported {a b : Action ε α} (h : Repeats t t' a b) (origin : Origin)
    (success : α → String) (failure : ε → String) :
    Repeats t t' (reported origin success failure a) (reported origin success failure b) := by
  intro w w' hFiles hFiles' hAfter
  rw [files_reported] at hAfter
  rw [ending_reported, ending_reported, files_reported]
  exact h w w' hFiles hFiles' hAfter

/-- As parts of commands operations repeat as they do alone. -/
theorem Repeats.operation {a b : Action Failure α} (h : Repeats t t' a b) :
    Repeats t t' (Command.operation a) (Command.operation b) := by
  intro w w' hFiles hFiles' hAfter
  rw [files_operation] at hAfter
  rw [ending_operation, ending_operation, files_operation]
  exact (h w w' hFiles hFiles' hAfter).imp (congrArg _) id

/-- Once the way to a file is prepared there is nothing more to prepare, also when
the file is written; where it cannot be prepared it never can. -/
structure Settles (t : Tree) (path : String) (prepare : Action ε Unit) : Prop where
  done : ∀ {w v}, w.files = t → prepare.perform w = (.done (), v) → ∀ {w'} {written},
    Footprint v.files w'.files path written → prepare.perform w' = (.done (), w')
  failed : ∀ {w v e}, w.files = t → prepare.perform w = (.failed e, v) → ∀ {w' : World},
    w'.files = v.files → prepare.perform w' = (.failed e, w')
  not_crashed : ∀ {w v c}, prepare.perform w ≠ (.crashed c, v)

/-- Where preparing settles, preparing and writing a file repeats: the same content is written at
the same place, or refused for the same reason. -/
theorem Settles.repeats {path : String} {prepare : Action ε Unit} (h : Settles t path prepare)
    (content : ByteArray) (error : OsError → ε) :
    let save : Action ε Unit := do
      let _ ← prepare
      match (← files).write path content with
        | .ok t => setFiles t
        | .error e => throw (error e)
    Repeats t t' save save := by
  intro save w w' hFiles hFiles' hAfter
  unfold save at hAfter ⊢
  rw [perform_bind] at hAfter ⊢
  rw [perform_bind]
  cases hPrepare : prepare.perform w with
  | mk ending v =>
      rw [hPrepare] at hAfter
      cases ending with
      | crashed c => exact absurd hPrepare h.not_crashed
      | failed e =>
          have hSame : w'.files = v.files := hFiles'.trans hAfter.symm
          rw [h.failed hFiles hPrepare hSame]
          exact ⟨rfl, hFiles'⟩
      | done r =>
          simp only [perform_bind, perform_files] at hAfter ⊢
          cases hWrite : v.files.write path content with
          | error e =>
              have hAfter : v.files = t' := by simpa [hWrite] using hAfter
              have hSame : w'.files = v.files := hFiles'.trans hAfter.symm
              have hUntouched : Footprint v.files w'.files path False :=
                .of_grows (hSame ▸ Grows.refl _ _) not_false
              have hDone := h.done hFiles hPrepare hUntouched
              simpa [hDone, hSame, hWrite] using hAfter
          | ok u =>
              have hAfter : u = t' := by simpa [hWrite] using hAfter
              have hSame : w'.files = u := hFiles'.trans hAfter.symm
              have hWritten : Footprint v.files w'.files path True :=
                .of_write (Grows.refl _ _) (hSame ▸ hWrite) trivial
              have hDone := h.done hFiles hPrepare hWritten
              simp [hDone, hSame, write_again hWrite, ← hAfter]

end Action

open Iconsmith.Action

/-! ### Preparing and writing -/

section Prepared

variable {t : Tree} {path above : String}

/-- An action that creates the directory of a file unless there is a reason to
skip it. The reason lasts, and a refusal does not bring it about. -/
theorem settles_of_createAll {ε : Type} {prepare : Action ε Unit} (skip : Tree → Bool)
    (error : OsError → ε) (hClosed : t.Closed) (hUp : ".." ∉ components path)
    (hAbove : parent? path = some above)
    (hPrepare : ∀ w, prepare.perform w =
      if above.isEmpty = true ∨ skip w.files = true then (.done (), w)
      else match w.files.createAll above with
        | (u, none) => (.done (), { w with files := u })
        | (u, some e) => (.failed (error e), { w with files := u }))
    (hLasts : ∀ {u u' written}, Footprint u u' path written → skip u = true → skip u' = true)
    (hRefused : ∀ {u e}, t.createAll above = (u, some e) → skip t = false → skip u = false) :
    Settles t path prepare := by
  have hTrim := isTrimmed_of_parent? hAbove
  have hUpAbove : ".." ∉ components above := mt (mem_components_of_parent? hAbove) hUp
  refine ⟨?_, ?_, ?_⟩
  -- A reason to skip lasts, and what has been created is a directory from then on.
  · rintro w v rfl hDone w' written hLater
    rw [hPrepare] at hDone ⊢
    split at hDone
    · next hSkip =>
      obtain rfl := (Prod.mk.inj hDone).2
      rw [if_pos (hSkip.imp id (hLasts hLater))]
    · next hSkip =>
      split at hDone
      · next u hAll =>
        obtain rfl := (Prod.mk.inj hDone).2
        have hThere := isDirectory_of_createDirectories hAll (by simpa using (not_or.mp hSkip).1)
        rw [createAll_of_isDirectory (hLater.isDirectory_of_isDirectory hThere), ite_self]
      · simp at hDone
  -- What was refused is refused again: the refused attempt gave no reason to skip it.
  · rintro w v e rfl hFailed w' hSame
    rw [hPrepare] at hFailed ⊢
    split at hFailed
    · simp at hFailed
    · next hSkip =>
      split at hFailed
      · simp at hFailed
      · next u x hAll =>
        obtain ⟨hError, rfl⟩ := Prod.mk.inj hFailed
        have hSame : w'.files = u := hSame
        have hNoSkip := hRefused hAll (by simpa using (not_or.mp hSkip).2)
        rw [hSame, if_neg (by simpa [hNoSkip] using (not_or.mp hSkip).1),
          (createAll_again hClosed hTrim hUpAbove hAll).1]
        rw [← hError, ← hSame]
  · intro w v c hCrashed
    rw [hPrepare] at hCrashed
    split at hCrashed
    · simp at hCrashed
    · split at hCrashed <;> simp at hCrashed

theorem settles_of_nothing {ε : Type} {prepare : Action ε Unit}
    (h : ∀ w, prepare.perform w = (.done (), w)) : Settles t path prepare := by
  refine ⟨fun _ _ _ _ _ => h _, fun _ hFailed => ?_, fun hCrashed => ?_⟩
  · simp [h] at hFailed
  · simp [h] at hCrashed

/-- The directory for an image is created once, unless something else stands there. -/
theorem Saving.settles_prepareDirectory (hClosed : t.Closed) (hUp : ".." ∉ components path) :
    Settles t path (prepareDirectory path) := by
  cases hAbove : parent? path with
  | none => exact settles_of_nothing fun w => by simp [prepareDirectory, hAbove]
  | some above =>
      have hTrim := isTrimmed_of_parent? hAbove
      have hUpAbove : ".." ∉ components above := mt (mem_components_of_parent? hAbove) hUp
      refine settles_of_createAll (fun u => u.exists? above)
        (fun e => .noOutputDirectory above e.message) hClosed hUp hAbove (fun w => ?_)
        Footprint.exists?_of_exists? fun hAll => (createAll_again hClosed hTrim hUpAbove hAll).2
      simp only [prepareDirectory, hAbove, perform_bind, perform_files, Bool.or_eq_true]
      split
      · rfl
      · cases w.files.createAll above with
        | mk u refused => cases refused <;> rfl

/-- The directory for settings is created again each time, and is there already the second
time. -/
theorem Settings.settles_prepareDirectory (hClosed : t.Closed) (hUp : ".." ∉ components path) :
    Settles t path (prepareDirectory path) := by
  cases hAbove : parent? path with
  | none => exact settles_of_nothing fun w => by simp [prepareDirectory, hAbove]
  | some above =>
      refine settles_of_createAll (fun _ => false) (fun e => .io e.message) hClosed hUp hAbove
        (fun w => ?_) (fun _ => id) fun _ => id
      simp only [prepareDirectory, hAbove, Bool.false_eq_true, or_false]
      split
      · rfl
      · simp only [perform_bind, perform_files, perform_setFiles]
        cases w.files.createAll above with
        | mk u refused => cases refused <;> rfl

/-- Saving an image again leaves the same file. -/
theorem Saving.repeats_savePng (hClosed : t.Closed) (hUp : ".." ∉ components path) (t' : Tree)
    (image : Bitmap) (choices : Png.Choices) :
    Repeats t t' (savePng image path choices) (savePng image path choices) :=
  (settles_prepareDirectory hClosed hUp).repeats (Png.encode image choices) fun e =>
    .unwritable path e.message

theorem Settings.repeats_save (hClosed : t.Closed) (hUp : ".." ∉ components path) (t' : Tree)
    (s : Settings) : Repeats t t' (save path s) (save path s) :=
  (settles_prepareDirectory hClosed hUp).repeats s.print.toUTF8 fun e => .io e.message

end Prepared

/-! ### Commands -/

/-- The path of an image that the drawing in a file refers to, where the drawing
is rendered. -/
def Convert.Shows (s : Settings) (t : Tree) (svg : String) (size : Option Size) (path : String) :
    Prop :=
  s.drawing = .file ∧ checkSize s (size.getD s.defaultSize) = .ok () ∧
    ∃ place content d reference, t.locate svg = .ok (place, .file content) ∧
      Svg.Document.read content = .ok d ∧ d.ImageFile reference ∧ path = resolve place reference

section Steps

variable {t t' : Tree} {written : Prop} (s : Settings)

/-- A drawing looks the same again if the images are the same that it refers to. -/
theorem Convert.rendered_again {svg : String} {size : Option Size} {place : Place} {source : Entry}
    (hLocated : t.locate svg = .ok (place, source))
    (hSize : checkSize s (size.getD s.defaultSize) = .ok ())
    (hImages : ∀ path, Shows s t svg size path → (t'.read path).toOption = (t.read path).toOption) :
    rendered s t' place source (size.getD s.defaultSize) =
      rendered s t place source (size.getD s.defaultSize) := by
  unfold rendered
  split
  · rfl
  · rfl
  · next content hDrawing =>
    refine Svg.render_congr_imageFiles _ fun d hRead reference hReference => hImages _ ?_
    exact ⟨hDrawing, hSize, place, content, d, reference, hLocated, hRead, hReference, rfl⟩

/-- A conversion repeats if its source and the images in it are not its target. -/
theorem Convert.repeats_steps {svg png : String} {size : Option Size} (choices : Png.Choices)
    (h : Footprint t t' png written) (hClosed : t.Closed) (hUp : ".." ∉ components png)
    (hSvg : ¬t'.LeadsTo svg (t.destination png))
    (hImages : ∀ path, Shows s t svg size path → (t'.read path).toOption = (t.read path).toOption) :
    Repeats t t' (steps s svg png size choices) (steps s svg png size choices) := by
  refine .files_bind ?_
  cases hLocated : t.locate svg with
  | error x => exact repeats_refused fun hSame => by rw [hSame, hLocated]
  | ok found =>
      obtain ⟨place, source⟩ := found
      rw [h.locate_again hSvg hLocated]
      dsimp only
      cases hSize : checkSize s (size.getD s.defaultSize) with
      | error f => exact repeats_throw f
      | ok _ =>
          rw [rendered_again s hLocated hSize hImages]
          cases rendered s t place source (size.getD s.defaultSize) with
          | error f => exact repeats_throw f
          | ok image =>
              exact (Saving.repeats_savePng hClosed hUp t' image choices).before
                (fun _ => keeps_pure _) fun _ => matched_pure _

/-- Without a bitmap nothing happens. -/
theorem Shrink.files_of_locate_error {input output : String} {choices : Png.Choices} {w : World}
    {x : OsError} (hLocated : w.files.locate input = .error x) :
    ((steps s input output choices).perform w).2.files = w.files := by
  simp [steps, Loading.load, Loading.readFile, perform_bind, hLocated]

/-- Shrinking repeats if its input is not its output. An input that does not exist is not made by
the attempt. -/
theorem Shrink.repeats_steps {input output : String} (choices : Png.Choices)
    (h : Footprint t t' output written) (hClosed : t.Closed) (hUp : ".." ∉ components output)
    (hInput : ¬t'.LeadsTo input (t.destination output)) :
    Repeats t t' (steps s input output choices) (steps s input output choices) := by
  intro w w' hFiles hFiles' hAfter
  have hLocate : t'.locate input = t.locate input := by
    cases hLocated : t.locate input with
    | ok found => exact h.locate_again hInput hLocated
    | error x =>
        rw [← hAfter, files_of_locate_error s (hFiles ▸ hLocated), hFiles, hLocated]
  have hLoad := Loading.matched_load (R := Between t t') s fun u u' hBetween => by
    rw [hBetween.1, hBetween.2, hLocate]
  refine Repeats.after hLoad (fun image => ?_) w w' hFiles hFiles' hAfter
  refine .after (Canvas.matched_fit s image) fun result => ?_
  exact (Saving.repeats_savePng hClosed hUp t' _ choices).before (fun _ => keeps_pure _)
    fun _ => matched_pure _

end Steps

section Loaded

variable {t t' : Tree} {α : Type} {next : Settings → Action CommandError α}

/-- Commands go on with the same settings if the settings file stands for the same. -/
theorem Action.Repeats.after_load {config : String}
    (hStored : Settings.stored t' config = Settings.stored t config)
    (hNext : Repeats t t' (next (Settings.stored t config)) (next (Settings.stored t config))) :
    Repeats t t' (Settings.load config >>= next) (Settings.load config >>= next) := by
  rintro w w' rfl rfl hAfter
  obtain ⟨log, hOld⟩ := Settings.perform_load_bind config next w
  obtain ⟨log', hNew⟩ := Settings.perform_load_bind config next w'
  rw [hOld] at hAfter ⊢
  rw [hNew, hStored]
  exact hNext ⟨w.files, log⟩ ⟨w'.files, log'⟩ rfl rfl hAfter

end Loaded

/-- Settings files that hold the same, or cannot be read, stand for the same. -/
theorem Settings.stored_congr {t t' : Tree} {config : String}
    (h : (t'.read config).toOption = (t.read config).toOption) :
    stored t' config = stored t config := by
  unfold stored readText
  cases hOld : t.read config <;> cases hNew : t'.read config <;> simp_all [Except.toOption]

/-- Settings that are refused are refused again. -/
theorem Action.Repeats.after_validation {t t' : Tree} {α : Type} {s : Settings}
    {next : ValidSettings → Action CommandError α}
    (hNext : ∀ v, s.validate = .ok v → Repeats t t' (next v) (next v)) :
    Repeats t t' (Settings.validOrFail s >>= next) (Settings.validOrFail s >>= next) := by
  unfold Settings.validOrFail
  cases hValid : s.validate with
  | ok v => simpa using hNext v hValid
  | error f => exact fun _ _ _ hFiles' _ => ⟨rfl, hFiles'⟩

namespace Command

/-- The path of an image that a rendered drawing refers to. -/
def Shows (config : String) (t : Tree) : Command → String → Prop
  | convert svg _ size fromFile, path =>
    ∃ v, ((Settings.stored t config).forConvert fromFile).validate = .ok v ∧
      Convert.Shows v.val t svg size path
  | _, _ => False

/-- The paths of all that a command reads. -/
def Reads (config : String) (t : Tree) (c : Command) (path : String) : Prop :=
  c.Shows config t path ∨ match c with
    | convert svg _ _ _ => path = config ∨ path = svg
    | shrink input _ _ _ _ => path = config ∨ path = input
    | initConfig _ => False

section Run

variable {config : String} {c : Command} {t t' : Tree} {written : Prop}

/-- A command repeats on the files that its first run has left, if these differ from those before
by its own file and new directories, and if it does not read what it writes. -/
theorem repeats_run (choices : Png.Choices) (h : Footprint t t' (c.target config) written)
    (hClosed : t.Closed) (hCommand : c ≠ .initConfig false)
    (hUp : ∀ path ∈ config :: c.paths, ".." ∉ components path)
    (hApart : ∀ path, c.Reads config t path → ¬t'.LeadsTo path (t.destination (c.target config)))
    (hImages : ∀ path, c.Shows config t path →
      NeverUpFromNew t t' (t.origin path) (components path)) :
    Repeats t t' (c.run config choices) (c.run config choices) := by
  have hUpConfig : ".." ∉ components config := hUp config List.mem_cons_self
  have hConfig (hReads : c.Reads config t config) :
      Settings.stored t' config = Settings.stored t config :=
    Settings.stored_congr (h.read_again (hApart config hReads) hClosed
      (neverUpFromNew_of_not_mem _ _ _ hUpConfig))
  cases c with
  | initConfig force =>
      obtain rfl : force = true := by
        by_contra hForce
        exact hCommand (by simp [hForce])
      refine .files_bind ?_
      simp only [Bool.not_true, Bool.and_false, Bool.false_eq_true, if_false]
      exact (Settings.repeats_save hClosed hUpConfig t' .default).before
        (fun _ => keeps_report unmoved_files (by decide) _ _) fun _ => matched_report _ _ _
  | convert svg png size fromFile =>
      refine .after_load (hConfig (Or.inr (Or.inl rfl))) (.after_validation fun v hValid => ?_)
      have hSteps : Repeats t t' (Convert.steps v.val svg png size choices)
          (Convert.steps v.val svg png size choices) := by
        refine Convert.repeats_steps v.val choices h hClosed (hUp png (by simp [paths]))
          (hApart svg (Or.inr (Or.inr rfl))) fun path hShows => ?_
        exact h.read_again (hApart path (Or.inl ⟨v, hValid, hShows⟩)) hClosed
          (hImages path ⟨v, hValid, hShows⟩)
      exact (hSteps.reported _ _ _).operation.before (fun _ => keeps_pure _) fun _ => matched_pure _
  | shrink input output filter canvas noUpscale =>
      refine .after_load (hConfig (Or.inr (Or.inl rfl))) (.after_validation fun v _ => ?_)
      have hSteps := Shrink.repeats_steps v.val choices h hClosed (hUp output (by simp [paths]))
        (hApart input (Or.inr (Or.inr rfl)))
      exact (hSteps.reported _ _ _).operation.before (fun _ => keeps_pure _) fun _ => matched_pure _

end Run

end Command

/-! ### A drawing with an image -/

namespace Pictured

/-- An image of one pixel. -/
def image : ByteArray :=
  ⟨#[0x47, 0x49, 0x46, 0x38, 0x39, 0x61, 1, 0, 1, 0, 0x80, 0, 0, 0xff, 0xff, 0xff, 0, 0, 0, 0x2c, 0, 0,
    0, 0, 1, 0, 1, 0, 0, 2, 2, 0x44, 1, 0, 0x3b]⟩

/-- A drawing that shows an image. -/
def drawing (reference : String) : ByteArray :=
  ("<svg xmlns=\"http://www.w3.org/2000/svg\" width=\"1\" height=\"1\"><image href=\"" ++ reference ++
    "\"/></svg>").toUTF8

/-- The drawing next to the image. -/
def world (reference : String) : World :=
  ⟨⟨[(["work", "a.svg"], .file (drawing reference)), (["work", "p.gif"], .file image),
    (["work"], .directory)], ["work"]⟩, []⟩

/-- The drawing is converted into a directory of its own. -/
def invocation : Invocation :=
  ⟨"c.json", some (.convert "a.svg" "new/o.png" (some ⟨1, 1⟩) true)⟩

variable {reference : String}

theorem closed_world : (world reference).files.Closed :=
  closed_of_entries (by simp [world, find?])

theorem destination_world (path : String) : (world reference).files.destination path =
    Place.follow (if isAbsolute path then [] else ["work"]) (components path) := rfl

/-- The drawing shows no image but the one that it refers to. -/
theorem eq_of_shows {path : String}
    (hRead : (Svg.Document.read (drawing reference)).toOption.map Svg.Document.references =
      some [reference])
    (h : invocation.effective.Shows invocation.config (world reference).files path) :
    path = Convert.resolve ["work", "a.svg"] reference := by
  obtain ⟨v, -, -, -, place, content, d, shown, hLocated, hContent, hImage, rfl⟩ := h
  have hHere : (world reference).files.locate "a.svg" =
      .ok (["work", "a.svg"], .file (drawing reference)) := rfl
  rw [hHere] at hLocated
  simp only [Except.ok.injEq, Prod.mk.injEq, Entry.file.injEq] at hLocated
  obtain ⟨rfl, rfl⟩ := hLocated
  rw [hContent] at hRead
  have hShown := Svg.Document.mem_references_of_imageFile hImage
  rw [Option.some.inj hRead] at hShown
  rw [List.mem_singleton.mp hShown]

/-- The drawing and the image are not where the output is written. -/
theorem not_leadsTo_of_reads {path : String}
    (hRead : (Svg.Document.read (drawing reference)).toOption.map Svg.Document.references =
      some [reference])
    (hApart : (world reference).files.destination (Convert.resolve ["work", "a.svg"] reference) ≠
      ["work", "new", "o.png"])
    (h : invocation.effective.Reads invocation.config (world reference).files path) :
    ¬((invocation.run .plain).perform (world reference)).2.files.LeadsTo path
      ((world reference).files.destination "new/o.png") := by
  refine (invocation.footprint_run .plain (world reference)).not_leadsTo ?_
  have hTarget : (world reference).files.destination "new/o.png" = ["work", "new", "o.png"] := by
    rw [destination_world]
    decide
  show _ ≠ (world reference).files.destination "new/o.png"
  rw [hTarget]
  obtain hShows | rfl | rfl := h
  · rw [eq_of_shows hRead hShows]
    exact hApart
  · rw [destination_world]
    decide +kernel
  · rw [destination_world]
    decide

/-! #### Reading the drawing -/

open Xml in
/-- The beginning of the drawing. -/
def opening : PlainTag :=
  .start "svg".toList
    [⟨"xmlns".toList, "http://www.w3.org/2000/svg".toList⟩, ⟨"width".toList, "1".toList⟩,
      ⟨"height".toList, "1".toList⟩] true

open Xml in
/-- The drawing by its tags. -/
def tags (reference : List Char) : List PlainTag :=
  [opening, .start "image".toList [⟨"href".toList, reference⟩] false, .stop "svg".toList]

/-- What stands in front of the reference. -/
def front : String :=
  "<svg xmlns=\"http://www.w3.org/2000/svg\" width=\"1\" height=\"1\"><image href=\""

/-- What stands behind the reference. -/
def back : String := "\"/></svg>"

theorem text_image (name label value : List Char) :
    (Xml.PlainTag.start name [⟨label, value⟩] false).text =
      ('<' :: (name ++ ' ' :: (label ++ ['=', '"']))) ++ (value ++ ['"', '/', '>']) := by
  simp [Xml.PlainTag.text, Xml.PlainAttribute.text, Xml.Scan.pairText, Xml.Read.tagEnd]

/-- What stands in front of the reference is the first tag and the beginning of the second. -/
theorem toList_front : front.toList =
    opening.text ++ '<' :: ("image".toList ++ ' ' :: ("href".toList ++ ['=', '"'])) := by
  have hLetters : front.toList = _ := String.toList_ofList
  rw [hLetters]
  decide

theorem toList_back :
    back.toList = ['"', '/', '>'] ++ (Xml.PlainTag.stop "svg".toList).text := by
  have hLetters : back.toList = _ := String.toList_ofList
  rw [hLetters]
  decide

theorem toList_text (reference : String) : (front ++ reference ++ back).toList =
    (tags reference.toList).flatMap Xml.PlainTag.text := by
  rw [String.toList_append, String.toList_append, toList_front, toList_back]
  simp only [tags, List.flatMap_cons, List.flatMap_nil, text_image, List.append_assoc,
    List.append_nil]

theorem isSome_tags (reference : List Char) : (Xml.nodesOf? (tags reference)).isSome = true := by
  rfl

/-- If the reference is plain, so are all tags. -/
theorem isPlain_tags {reference : List Char} (h : Xml.isPlainValue reference = true) :
    ∀ t ∈ tags reference, t.IsPlain := by
  have hOpening : opening.IsPlain := by decide +kernel
  have hName : Xml.isPlainName "svg".toList = true := by decide
  have hImage : Xml.isPlainName "image".toList = true := by decide
  have hLabel : Xml.isPlainName "href".toList = true := by decide
  have hDeclares : (Xml.PlainAttribute.mk "href".toList reference).isDeclaration = false := by
    show (String.ofList "href".toList == "xmlns") = false
    decide
  have hReference :
      (Xml.PlainTag.start "image".toList [⟨"href".toList, reference⟩] false).IsPlain := by
    refine ⟨hImage, List.forall_mem_singleton.mpr ⟨hLabel, h, ?_⟩, ?_⟩
    · rw [hDeclares]
      exact nofun
    · rw [Xml.namedBy, List.filter_cons_of_pos (by rw [hDeclares]; rfl)]
      exact List.nodup_singleton _
  exact List.forall_mem_cons.mpr ⟨hOpening,
    List.forall_mem_cons.mpr ⟨hReference, List.forall_mem_singleton.mpr hName⟩⟩

/-- The nodes of the drawing. -/
def nodes (reference : String) : List Xml.Node :=
  (Xml.nodesOf? (tags reference.toList)).get (isSome_tags _)

/-- So the text stands for its nodes, whatever the reference is. -/
theorem parse_text (h : Xml.isPlainValue reference.toList = true) :
    Xml.parse (front ++ reference ++ back) = .ok (nodes reference) :=
  Xml.parse_tags (toList_text reference) (isPlain_tags h) (Option.some_get _).symm rfl

theorem not_isGzip_text (reference : String) :
    Deflate.isGzip (front ++ reference ++ back).toUTF8 = false :=
  Svg.not_isGzip_of_cons (toList_text reference) (by decide)

/-- The document in the file is that of the nodes. -/
theorem read_drawing (h : Xml.isPlainValue reference.toList = true) :
    Svg.Document.read (drawing reference) = Svg.Document.ofNodes (nodes reference) := by
  rw [← Svg.Document.parse_of_nodes (parse_text h)]
  exact Svg.Document.read_toUTF8 (not_isGzip_text reference)

theorem render_drawing (h : Xml.isPlainValue reference.toList = true) (library : Svg.Library)
    (size : Size) : Svg.render library (drawing reference) size =
      Svg.renderNodes library (nodes reference) size :=
  Svg.render_of_nodes (not_isGzip_text reference) (parse_text h) library size

/-! #### Converting the drawing -/

/-- Without a settings file a drawing that can be rendered is saved. -/
theorem run_of_render {t t' : Tree} {image : Bitmap} (log : List Record)
    (hNone : t.exists? "c.json" = false)
    (hHere : t.locate "a.svg" = .ok (["work", "a.svg"], .file (drawing reference)))
    (hImage : Svg.render (Convert.library t ["work", "a.svg"]) (drawing reference) ⟨1, 1⟩ =
      .ok image)
    (hSaved : ∀ log, (Saving.savePng image "new/o.png" .plain).perform ⟨t, log⟩ =
      (.done (), ⟨t', log⟩)) :
    ((invocation.run .plain).perform ⟨t, log⟩).1 = .done () ∧
      ((invocation.run .plain).perform ⟨t, log⟩).2.files = t' := by
  have hStored : Settings.stored t "c.json" = .default := by
    obtain ⟨reason, hText⟩ := Settings.readText_of_not_exists hNone
    simp [Settings.stored, hText]
  let v : ValidSettings := ⟨Settings.default.forConvert true, by decide⟩
  obtain ⟨log', hLoad⟩ := Settings.perform_load_bind "c.json" (fun s => do
    let v ← Settings.validOrFail (s.forConvert true)
    let _ ← Command.operation (Convert.run v "a.svg" "new/o.png" (some ⟨1, 1⟩) .plain)) ⟨t, log⟩
  have hRun : (invocation.run .plain).perform ⟨t, log⟩ =
      ((Command.operation (Convert.run v "a.svg" "new/o.png" (some ⟨1, 1⟩) .plain) >>= fun _ =>
        pure ()).perform ⟨t, log'⟩) := by
    rw [hStored] at hLoad
    exact hLoad
  have hSteps : (Convert.steps v.val "a.svg" "new/o.png" (some ⟨1, 1⟩) .plain).perform ⟨t, log'⟩ =
      (.done ⟨1, 1⟩, ⟨t', log'⟩) := by
    have hChecked : Convert.checkSize v.val ⟨1, 1⟩ = .ok () := by decide
    have hRendered : Convert.rendered v.val t ["work", "a.svg"] (.file (drawing reference)) ⟨1, 1⟩ =
        .ok image := hImage
    rw [Convert.perform_steps_of_locate (w := ⟨t, log'⟩) hHere, Option.getD_some, hRendered]
    unfold Convert.conclude
    rw [hChecked]
    dsimp only
    rw [Action.perform_bind, hSaved]
    rfl
  rw [hRun, Action.perform_bind, Command.perform_operation, Convert.run, Action.perform_reported,
    hSteps]
  exact ⟨rfl, rfl⟩

/-- The files once the drawing has been converted. -/
def converted (reference : String) (image : Bitmap) : Tree :=
  ((world reference).files.insert ["work", "new"] .directory).insert ["work", "new", "o.png"]
    (.file (Png.encode image .plain))

/-- The first run creates the directory of the output. -/
theorem savePng_world (image : Bitmap) (log : List Record) :
    (Saving.savePng image "new/o.png" .plain).perform ⟨(world reference).files, log⟩ =
      (.done (), ⟨converted reference image, log⟩) := by
  rfl

theorem savePng_converted (image image' : Bitmap) (log : List Record) :
    (Saving.savePng image' "new/o.png" .plain).perform ⟨converted reference image, log⟩ =
      (.done (), ⟨converted reference image', log⟩) := by
  rfl

theorem run_world {image : Bitmap}
    (hImage : Svg.render (Convert.library (world reference).files ["work", "a.svg"])
      (drawing reference) ⟨1, 1⟩ = .ok image) :
    ((invocation.run .plain).perform (world reference)).1 = .done () ∧
      ((invocation.run .plain).perform (world reference)).2.files = converted reference image := by
  have hNone : (world reference).files.exists? "c.json" = false := by rfl
  have hHere : (world reference).files.locate "a.svg" =
      .ok (["work", "a.svg"], .file (drawing reference)) := by rfl
  have hWorld : world reference = ⟨(world reference).files, []⟩ := rfl
  rw [hWorld]
  exact run_of_render [] hNone hHere hImage (savePng_world image)

/-- A run after the first one leaves what it has rendered itself. -/
theorem run_converted {image image' : Bitmap} (log : List Record)
    (hImage : Svg.render (Convert.library (converted reference image) ["work", "a.svg"])
      (drawing reference) ⟨1, 1⟩ = .ok image') :
    ((invocation.run .plain).perform ⟨converted reference image, log⟩).2.files =
      converted reference image' := by
  have hNone : (converted reference image).exists? "c.json" = false := by rfl
  have hHere : (converted reference image).locate "a.svg" =
      .ok (["work", "a.svg"], .file (drawing reference)) := by rfl
  exact (run_of_render log hNone hHere hImage (savePng_converted image image')).2

/-- The image of one pixel. -/
def dot (p : Pixel) : Bitmap := .ofFn 1 1 fun _ _ => p

/-- An image of one pixel is known by this pixel. -/
theorem render_eq_dot {library : Svg.Library} {p : Pixel}
    (hPlain : Xml.isPlainValue reference.toList = true)
    (h : (Svg.renderNodes library (nodes reference) ⟨1, 1⟩).toOption.map Bitmap.pixels =
      some #[p]) :
    Svg.render library (drawing reference) ⟨1, 1⟩ = .ok (dot p) := by
  rw [← render_drawing hPlain] at h
  cases hImage : Svg.render library (drawing reference) ⟨1, 1⟩ with
  | error f => simp [hImage, Except.toOption] at h
  | ok image =>
    have hSize := Svg.size_of_render hImage
    rw [hImage] at h
    rw [Bitmap.ext_pixels (a := image) (b := dot p) (congrArg Size.width hSize)
      (congrArg Size.height hSize) (Option.some.inj h)]

/-! #### An image beside the drawing, and one above the directory of the output -/

theorem references_beside :
    (Svg.Document.ofNodes (nodes "p.gif")).toOption.map Svg.Document.references = some ["p.gif"] := by
  decide +kernel

theorem size_beside :
    ((Svg.Document.ofNodes (nodes "p.gif")).bind Svg.Document.size).isOk = true := by
  decide +kernel

/-- The drawing refers to the image by a way that leaves the new directory. -/
theorem references_above :
    (Svg.Document.ofNodes (nodes "new/../p.gif")).toOption.map Svg.Document.references =
      some ["new/../p.gif"] := by
  decide +kernel

/-- There is no way up from a directory that is not there. -/
theorem pixels_unseen :
    (Svg.renderNodes (Convert.library (world "new/../p.gif").files ["work", "a.svg"])
      (nodes "new/../p.gif") ⟨1, 1⟩).toOption.map Bitmap.pixels = some #[.clear] := by
  decide +kernel

/-- From the new directory there is a way up, and the image is white. -/
theorem pixels_seen :
    (Svg.renderNodes (Convert.library (converted "new/../p.gif" (dot .clear)) ["work", "a.svg"])
      (nodes "new/../p.gif") ⟨1, 1⟩).toOption.map Bitmap.pixels = some #[.gray 255] := by
  decide +kernel

end Pictured

/-- Where all that is there stands in a directory, a command that is run once more
right after it has run ends in the same way, with the same error if it fails, and
leaves all files and directories as its first run has left them: if no path goes
up, the file that it writes is not one that it reads, and no image is referred to
by a way up from a directory that the first run has created. -/
theorem Invocation.run_again (i : Invocation) (choices : Png.Choices) (w : World)
    (log : List Record) (hClosed : w.files.Closed) (hCommand : i.effective ≠ .initConfig false)
    (hUp : ∀ path ∈ i.paths, ".." ∉ components path) :
    let after := ((i.run choices).perform w).2.files
    let again := (i.run choices).perform ⟨after, log⟩
    (∀ path, i.effective.Reads i.config w.files path →
      ¬after.LeadsTo path (w.files.destination (i.effective.target i.config))) →
    (∀ path, i.effective.Shows i.config w.files path →
      NeverUpFromNew w.files after (w.files.origin path) (components path)) →
    again.1 = ((i.run choices).perform w).1 ∧ again.2.files = after := by
  intro after again hApart hImages
  exact Command.repeats_run choices (i.footprint_run choices w) hClosed hCommand hUp hApart hImages
    w ⟨after, log⟩ rfl rfl rfl

/-- The image is next to the drawing, the output in a directory that is new. -/
theorem Invocation.run_again_image :
    let after := ((Pictured.invocation.run .plain).perform (Pictured.world "p.gif")).2.files
    let again := (Pictured.invocation.run .plain).perform ⟨after, []⟩
    after.isDirectory "new" = true ∧ again.1 = .done () ∧ again.2.files = after := by
  have hPlain : Xml.isPlainValue "p.gif".toList = true := by rfl
  have hRead := Pictured.references_beside
  have hSize := Pictured.size_beside
  rw [← Pictured.read_drawing hPlain] at hRead
  rw [← Svg.Document.parse_of_nodes (Pictured.parse_text hPlain)] at hSize
  have hCanvas : Svg.isCanvas ⟨1, 1⟩ = true := by decide
  obtain ⟨image, hImage⟩ := Svg.exists_render (Pictured.not_isGzip_text "p.gif") hSize
    (Convert.library (Pictured.world "p.gif").files ["work", "a.svg"]) hCanvas
  obtain ⟨hDone, hAfter⟩ := Pictured.run_world hImage
  obtain ⟨hEnding, hFiles⟩ := run_again Pictured.invocation .plain (Pictured.world "p.gif") []
    Pictured.closed_world (by decide) (by decide)
    (fun path => Pictured.not_leadsTo_of_reads hRead (by decide)) fun path hShows => by
      rw [Pictured.eq_of_shows hRead hShows]
      exact neverUpFromNew_of_not_mem _ _ _ (by decide)
  refine ⟨?_, hEnding.trans hDone, hFiles⟩
  rw [hAfter]
  rfl

/-- The image is referred to by a way up from the directory of the output. It is
not seen before there is such a directory, so the second output is another one. -/
theorem Invocation.run_not_always_again :
    ¬∀ (i : Invocation) (w : World), w.files.Closed → i.effective ≠ .initConfig false →
      (∀ path ∈ i.paths, ".." ∉ components path) →
      let after := ((i.run .plain).perform w).2.files
      let again := (i.run .plain).perform ⟨after, w.log⟩
      (∀ path, i.effective.Reads i.config w.files path →
        ¬after.LeadsTo path (w.files.destination (i.effective.target i.config))) →
      again.1 = ((i.run .plain).perform w).1 ∧ again.2.files = after := by
  intro h
  have hPlain : Xml.isPlainValue "new/../p.gif".toList = true := by decide
  have hRead := Pictured.references_above
  rw [← Pictured.read_drawing hPlain] at hRead
  obtain ⟨-, hFiles⟩ := h Pictured.invocation (Pictured.world "new/../p.gif") Pictured.closed_world
    (by decide) (by decide)
    fun path => Pictured.not_leadsTo_of_reads hRead (by decide)
  rw [(Pictured.run_world (Pictured.render_eq_dot hPlain Pictured.pixels_unseen)).2,
    Pictured.run_converted _ (Pictured.render_eq_dot hPlain Pictured.pixels_seen)] at hFiles
  have hOutput (image : Bitmap) : ((Pictured.converted "new/../p.gif" image).read
      "new/o.png").toOption = some (Png.encode image .plain) := rfl
  have hSame := congrArg (fun t => (t.read "new/o.png").toOption) hFiles
  simp only [hOutput, Option.some.injEq] at hSame
  have hDots := Png.encode_injective Png.Choices.lossless_plain (by decide) (by decide) hSame
  exact absurd (congrArg Bitmap.pixels hDots) (by decide)

end Iconsmith
