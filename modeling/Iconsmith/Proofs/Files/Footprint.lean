import Iconsmith.Proofs.Files.Tree
import Iconsmith.Proofs.World.Observation

/-! What a run leaves behind in the files. Each command writes one file as the
last thing that can fail, so a run that fails has at most created directories on
the way to it. -/
namespace Iconsmith

namespace Files

/-- A place on the way to the destination of a path, its parent included. -/
def Tree.OnTheWay (t : Tree) (path : String) (p : Place) : Prop :=
  ∃ cs, cs <+: components path ∧ cs ≠ components path ∧ p = Place.follow (t.origin path) cs

/-- All that is new in a tree are directories at certain places. -/
structure Grows (before after : Tree) (near : Place → Prop) : Prop where
  home_eq : after.home = before.home
  find?_cases : ∀ p, after.find? p = before.find? p ∨
    before.find? p = none ∧ after.find? p = some .directory ∧ near p

namespace Grows

variable {before between after : Tree} {near far : Place → Prop}

theorem refl (t : Tree) (near : Place → Prop) : Grows t t near := ⟨rfl, fun _ => Or.inl rfl⟩

theorem mono (h : Grows before after near) (hFar : ∀ p, near p → far p) :
    Grows before after far :=
  ⟨h.home_eq, fun p => (h.find?_cases p).imp id fun ⟨hNone, hDir, hNear⟩ =>
    ⟨hNone, hDir, hFar p hNear⟩⟩

/-- What grows twice has grown: a place is new after the first step or after the second. -/
theorem trans (h : Grows before between near) (h' : Grows between after near) :
    Grows before after near := by
  refine ⟨h'.home_eq.trans h.home_eq, fun p => ?_⟩
  rcases h.find?_cases p with hSame | ⟨hNone, hDir, hNear⟩
  · rcases h'.find?_cases p with hSame' | ⟨hNone, hDir, hNear⟩
    · exact Or.inl (hSame'.trans hSame)
    · exact Or.inr ⟨hSame ▸ hNone, hDir, hNear⟩
  · rcases h'.find?_cases p with hSame' | ⟨hNone', -, -⟩
    · exact Or.inr ⟨hNone, hSame'.trans hDir, hNear⟩
    · simp [hDir] at hNone'

/-- New directories do not change where a path starts. -/
theorem origin_eq (h : Grows before after near) (path : String) :
    after.origin path = before.origin path := by
  rw [Tree.origin, Tree.origin, h.home_eq]

theorem destination_eq (h : Grows before after near) (path : String) :
    after.destination path = before.destination path := by
  rw [Tree.destination, Tree.destination, h.origin_eq]

end Grows

namespace Tree

/-- A place that some of the first components of a path lead to. -/
def Along (t : Tree) (path : String) (p : Place) : Prop :=
  ∃ cs, cs <+: components path ∧ p = Place.follow (t.origin path) cs

/-- What the directory of a path comes along is on the way of the path. -/
theorem onTheWay_of_along {t : Tree} {path above : String} {p : Place}
    (hAbove : parent? path = some above) (h : t.Along above p) : t.OnTheWay path p := by
  obtain ⟨⟨dots, name, more, hComponents, -, -⟩, hStart⟩ := components_parent? hAbove
  obtain ⟨cs, hPrefix, rfl⟩ := h
  have hLonger : cs.length < (components path).length := by
    have hLength := hPrefix.length_le
    rw [hComponents, List.length_append, List.length_append, List.length_cons]
    omega
  refine ⟨cs, ?_, fun hSame => by simp [hSame] at hLonger, by rw [origin, origin, hStart]⟩
  rw [hComponents]
  exact hPrefix.trans (List.prefix_append _ _)

/-- A path comes along everything that is on its way. -/
theorem OnTheWay.along {t : Tree} {path : String} {p : Place} (h : t.OnTheWay path p) :
    t.Along path p := by
  obtain ⟨cs, hPrefix, -, hPlace⟩ := h
  exact ⟨cs, hPrefix, hPlace⟩

/-- A directory that is created is the only thing that is new. -/
theorem grows_createDirectory {t t' : Tree} {path : String}
    (h : t.createDirectory path = .ok t') : Grows t t' (t.Along path) := by
  obtain ⟨dir, name, hTargets, hNone, rfl⟩ := createDirectory_eq_ok h
  refine ⟨rfl, fun p => ?_⟩
  rw [find?_insert t (by simp)]
  split
  · next hSame =>
    exact Or.inr ⟨hSame ▸ hNone, rfl, _, List.prefix_rfl, hSame.trans hTargets.destination_eq.symm⟩
  · exact Or.inl rfl

/-- Whether it succeeds or not, creating directories only adds some along the
path. -/
theorem grows_createDirectories (levels : Nat) (t : Tree) (path : String) :
    Grows t (createDirectories levels t path).1 (t.Along path) := by
  fun_induction createDirectories levels t path with
  | case1 => exact .refl _ _
  | case2 levels t path _ t' hCreate => exact grows_createDirectory hCreate
  | case3 t path _ _ levels above hAbove t' e hAll ih
  | case5 t path _ _ levels above hAbove t' hAll e _ _ ih
  | case6 t path _ _ levels above hAbove t' hAll e _ _ ih =>
      rw [hAll] at ih
      exact ih.mono fun p h => (onTheWay_of_along hAbove h).along
  | case4 t path _ _ levels above hAbove t' hAll t'' hCreate ih =>
      rw [hAll] at ih
      have hAlong : t'.Along path = t.Along path := by
        funext p
        rw [Along, Along, ih.origin_eq]
      exact (ih.mono fun p h => (onTheWay_of_along hAbove h).along).trans
        (hAlong ▸ grows_createDirectory hCreate)
  | case7 => exact .refl _ _
  | case8 => exact .refl _ _
  | case9 => exact .refl _ _

/-- Directories created for the parent of a path are on the way to it. -/
theorem grows_createAll (t : Tree) {path above : String} (h : parent? path = some above) :
    Grows t (t.createAll above).1 (t.OnTheWay path) :=
  (grows_createDirectories _ t above).mono fun _ => onTheWay_of_along h

end Tree

/-- What may have happened to a tree in which one file was to be written: every
place is as before, or a directory on the way to the file that is new, or the
destination of the file, which is no directory and changes only if the file is
written. -/
structure Footprint (before after : Tree) (path : String) (written : Prop) : Prop where
  home_eq : after.home = before.home
  find?_cases : ∀ p, after.find? p = before.find? p ∨
    (before.find? p = none ∧ after.find? p = some .directory ∧ before.OnTheWay path p) ∨
    (written ∧ p = before.destination path ∧ before.find? p ≠ some .directory ∧
      ∃ content, after.find? p = some (.file content))
  find?_destination : written →
    ∃ content, after.find? (before.destination path) = some (.file content)

namespace Footprint

variable {before after : Tree} {path : String} {written : Prop}

/-- New directories on the way are a footprint without a file that was written. -/
theorem of_grows (h : Grows before after (before.OnTheWay path)) (hNot : ¬written) :
    Footprint before after path written :=
  ⟨h.home_eq, fun p => (h.find?_cases p).imp id Or.inl, fun hWritten => absurd hWritten hNot⟩

/-- A file that is written after directories on the way to it were created. -/
theorem of_write {between : Tree} {content : ByteArray}
    (h : Grows before between (before.OnTheWay path))
    (hWrite : between.write path content = .ok after) (hWritten : written) :
    Footprint before after path written := by
  obtain ⟨dir, name, hTargets, -, hFree, rfl⟩ := Tree.write_eq_ok hWrite
  have hPlace : before.destination path = dir ++ [name] := by
    rw [← h.destination_eq, hTargets.destination_eq]
  have hFind := Tree.find?_insert between (p := dir ++ [name]) (by simp) (.file content)
  refine ⟨h.home_eq, fun p => ?_, fun _ => ⟨content, by rw [hPlace, hFind, if_pos rfl]⟩⟩
  rw [hFind]
  split
  · next hSame =>
    subst hSame
    refine Or.inr (Or.inr ⟨hWritten, hPlace.symm, fun hDir => hFree ?_, content, rfl⟩)
    rcases h.find?_cases (dir ++ [name]) with hSame | ⟨hNone, -, -⟩
    · exact hSame.trans hDir
    · simp [hNone] at hDir
  · exact (h.find?_cases p).imp id Or.inl

/-- Files that were not written are the same files as before. -/
theorem find?_eq_file_iff (h : Footprint before after path written) (hNot : ¬written) (p : Place)
    (content : ByteArray) :
    after.find? p = some (.file content) ↔ before.find? p = some (.file content) := by
  rcases h.find?_cases p with hSame | ⟨hNone, hDir, -⟩ | ⟨hWritten, -⟩
  · rw [hSame]
  · simp [hNone, hDir]
  · exact absurd hWritten hNot

end Footprint
end Files

open Files (Footprint Grows)

/-- There is a result. -/
def Ending.IsDone {ε α : Type} : Ending ε α → Prop
  | .done _ => True
  | _ => False

theorem Ending.isDone_mapError {ε δ α : Type} (f : ε → δ) (ending : Ending ε α) :
    (ending.mapError f).IsDone = ending.IsDone := by
  cases ending <;> rfl

namespace Action

variable {ε α β : Type} {path : String}

/-- However it ends, the action writes at most the file at a path, and does so
if and only if it has a result. -/
def Writes (path : String) (a : Action ε α) : Prop :=
  ∀ w, Footprint w.files (a.perform w).2.files path (a.perform w).1.IsDone

/-- However it ends, the action at most creates directories on the way to a
path. -/
def Prepares (path : String) (a : Action ε α) : Prop :=
  ∀ w, Grows w.files (a.perform w).2.files (w.files.OnTheWay path)

theorem writes_throw (path : String) (e : ε) : (throw e : Action ε α).Writes path :=
  fun _ => .of_grows (.refl _ _) not_false

/-- Nothing is written where an action ends without a result. -/
theorem Keeps.bind_writes {a : Action ε α} {next : α → Action ε β} (ha : a.Keeps World.files)
    (hNext : ∀ r, (next r).Writes path) : (a >>= next).Writes path := by
  intro w
  have hFiles := ha w
  rw [perform_bind]
  cases h : a.perform w with
  | mk ending w' =>
      rw [h] at hFiles
      have hSame : w'.files = w.files := hFiles
      cases ending with
      | done r => exact hSame ▸ hNext r w'
      | failed e => exact .of_grows (hSame ▸ .refl _ _) not_false
      | crashed c => exact .of_grows (hSame ▸ .refl _ _) not_false

/-- A step that is only taken under a condition and changes no file. -/
theorem Keeps.optional_writes {c : Prop} [Decidable c] {a : Action ε PUnit}
    {next : PUnit → Action ε β} (ha : a.Keeps World.files) (hNext : ∀ u, (next u).Writes path) :
    (if c then a >>= next else next ⟨⟩).Writes path := by
  split
  · exact ha.bind_writes hNext
  · exact hNext _

/-- What follows a written file has a result of its own and keeps the files. -/
theorem Writes.bind {a : Action ε α} {next : α → Action ε β} (ha : a.Writes path)
    (hKeeps : ∀ r, (next r).Keeps World.files) (hDone : ∀ r w, ((next r).perform w).1.IsDone) :
    (a >>= next).Writes path := by
  intro w
  have hWritten := ha w
  rw [perform_bind]
  cases h : a.perform w with
  | mk ending w' =>
      rw [h] at hWritten
      cases ending with
      | done r =>
          have hFiles : ((next r).perform w').2.files = w'.files := hKeeps r w'
          have hIff : ((next r).perform w').1.IsDone = True := eq_true (hDone r w')
          dsimp only
          rw [hFiles, hIff]
          exact hWritten
      | failed e => exact hWritten
      | crashed c => exact hWritten

/-- The directories above a path are created, even if the system refuses one in
the end. -/
theorem grows_createAll {above : String} (hAbove : Files.parent? path = some above)
    (error : Files.OsError → ε) (w : World) :
    Grows w.files ((do
      setFiles (w.files.createAll above).1
      match (w.files.createAll above).2 with
        | some e => throw (error e)
        | none => pure () : Action ε Unit).perform w).2.files (w.files.OnTheWay path) := by
  rw [perform_bind, perform_setFiles]
  dsimp only
  split <;> exact Files.Tree.grows_createAll w.files hAbove

/-- Once the way is prepared, one attempt to write is made. -/
theorem Prepares.write {a : Action ε α} (h : a.Prepares path) (content : ByteArray)
    (error : Files.OsError → ε) :
    (do
      let _ ← a
      match (← files).write path content with
        | .ok t => setFiles t
        | .error e => throw (error e) : Action ε Unit).Writes path := by
  intro w
  have hGrows := h w
  rw [perform_bind]
  cases h : a.perform w with
  | mk ending w' =>
      rw [h] at hGrows
      cases ending with
      | failed e => exact .of_grows hGrows not_false
      | crashed c => exact .of_grows hGrows not_false
      | done r =>
          simp only [perform_bind, perform_files]
          cases hWrite : w'.files.write path content with
          | error e => exact .of_grows hGrows not_false
          | ok t => exact .of_write hGrows hWrite trivial

/-- The report about an operation writes nothing. -/
theorem Writes.reported {a : Action ε α} (h : a.Writes path) (origin : Origin)
    (success : α → String) (failure : ε → String) :
    (reported origin success failure a).Writes path := by
  intro w
  rw [ending_reported, files_reported]
  exact h w

/-- An operation writes the same as part of a command. -/
theorem Writes.operation {a : Action Failure α} (h : a.Writes path) :
    (Command.operation a).Writes path := by
  intro w
  rw [ending_operation, files_operation, Ending.isDone_mapError]
  exact h w

end Action

open Iconsmith.Action

/-- Before an image is saved at most the directory of its file is created. -/
theorem Saving.prepares_prepareDirectory (path : String) :
    (prepareDirectory path).Prepares path := by
  intro w
  unfold prepareDirectory
  split
  · exact .refl _ _
  · next above hAbove =>
    rw [perform_bind, perform_files]
    dsimp only
    split
    · exact .refl _ _
    · exact grows_createAll hAbove (fun e => Failure.noOutputDirectory above e.message) w

/-- Saving an image writes its file, whatever the choices of the writer are. -/
theorem Saving.writes_savePng (image : Bitmap) (path : String) (choices : Png.Choices) :
    (savePng image path choices).Writes path :=
  (prepares_prepareDirectory path).write (Png.encode image choices) fun e =>
    .unwritable path e.message

theorem Settings.prepares_prepareDirectory (path : String) :
    (prepareDirectory path).Prepares path := by
  intro w
  unfold prepareDirectory
  split
  · exact .refl _ _
  · next above hAbove =>
    split
    · exact .refl _ _
    · rw [perform_bind, perform_files]
      exact grows_createAll hAbove (fun e => CommandError.io e.message) w

theorem Settings.writes_save (path : String) (s : Settings) : (save path s).Writes path :=
  (prepares_prepareDirectory path).write s.print.toUTF8 fun e => .io e.message

theorem Convert.writes_steps (s : Settings) (svg png : String) (size : Option Size)
    (choices : Png.Choices) : (steps s svg png size choices).Writes png := by
  refine keeps_files.bind_writes fun t => ?_
  split
  · exact writes_throw _ _
  · dsimp only
    split
    · exact writes_throw _ _
    · split
      · exact writes_throw _ _
      · exact (Saving.writes_savePng _ png choices).bind (fun _ => keeps_pure _) fun _ _ => trivial

/-- Shrinking writes its output. Loading and fitting leave the files alone. -/
theorem Shrink.writes_steps (s : Settings) (input output : String) (choices : Png.Choices) :
    (steps s input output choices).Writes output := by
  refine (Loading.keeps_load unmoved_files s input).bind_writes fun image => ?_
  refine (Canvas.keeps_fit unmoved_files s image).bind_writes fun result => ?_
  exact (Saving.writes_savePng _ output choices).bind (fun _ => keeps_pure _) fun _ _ => trivial

namespace Command

/-- The file that a command writes. -/
def target (config : String) : Command → String
  | convert _ png _ _ => png
  | shrink _ output _ _ _ => output
  | initConfig _ => config

theorem writes_runInit (config : String) (force : Bool) : (runInit config force).Writes config := by
  refine keeps_files.bind_writes fun t => (keeps_throw _).optional_writes fun _ => ?_
  exact (Settings.writes_save config .default).bind
    (fun _ => keeps_report unmoved_files (by decide) _ _) fun _ _ => trivial

/-- Every command writes its own file and no other. -/
theorem writes_run (config : String) (c : Command) (choices : Png.Choices) :
    (c.run config choices).Writes (c.target config) := by
  cases c with
  | initConfig force => exact writes_runInit config force
  | convert svg png size fromFile =>
      refine (Settings.keeps_load unmoved_files config).bind_writes fun s => ?_
      refine (Settings.keeps_validOrFail World.files _).bind_writes fun v => ?_
      exact ((Convert.writes_steps v.val svg png size choices).reported _ _ _).operation.bind
        (fun _ => keeps_pure _) fun _ _ => trivial
  | shrink input output filter canvas noUpscale =>
      refine (Settings.keeps_load unmoved_files config).bind_writes fun s => ?_
      refine (Settings.keeps_validOrFail World.files _).bind_writes fun v => ?_
      exact ((Shrink.writes_steps v.val input output choices).reported _ _ _).operation.bind
        (fun _ => keeps_pure _) fun _ _ => trivial

end Command

/-- The footprint of a command, which has written its file if and only if it succeeds. -/
theorem Invocation.footprint_run (i : Invocation) (choices : Png.Choices) (w : World) :
    Footprint w.files ((i.run choices).perform w).2.files (i.effective.target i.config)
      (((i.run choices).perform w).1 = .done ()) := by
  have hIff : ((i.run choices).perform w).1.IsDone =
      (((i.run choices).perform w).1 = .done ()) := by
    unfold Ending.IsDone
    cases ((i.run choices).perform w).1 <;> simp
  exact hIff ▸ Command.writes_run i.config i.effective choices w

/-- A command changes at most its own file, and adds at most directories on the
way to it. It changes the file if and only if it succeeds, so after a failure or
a crash every file is there as before and no other is. -/
theorem Invocation.run_footprint (i : Invocation) (choices : Png.Choices) (w : World) :
    let after := ((i.run choices).perform w).2.files
    let succeeded := ((i.run choices).perform w).1 = .done ()
    Footprint w.files after (i.effective.target i.config) succeeded ∧
      (¬succeeded → ∀ p content,
        after.find? p = some (.file content) ↔ w.files.find? p = some (.file content)) := by
  intro after succeeded
  have hFootprint := i.footprint_run choices w
  exact ⟨hFootprint, fun hNot p content => hFootprint.find?_eq_file_iff hNot p content⟩

/-- Settings that cannot be written because a directory, new on the way to them,
stands in their own place. -/
theorem Invocation.run_footprint_ownDirectory :
    let i : Invocation := ⟨"conf/../conf", some (.initConfig true)⟩
    let w : World := ⟨⟨[(["work", "keep"], .file ⟨#[7]⟩), (["work"], .directory)], ["work"]⟩, []⟩
    let after := ((i.run .plain).perform w).2.files
    ((i.run .plain).perform w).1 = .failed (.io Files.OsError.isDirectory.message) ∧
      after.isDirectory "conf" = true ∧
      after.find? ["work", "keep"] = some (.file ⟨#[7]⟩) := by
  intro i w after
  have hFailed : ((i.run .plain).perform w).1 =
      .failed (.io Files.OsError.isDirectory.message) := by
    decide +kernel
  refine ⟨hFailed, by decide, ((run_footprint i .plain w).2 ?_ _ _).mpr rfl⟩
  simp [hFailed]

end Iconsmith
