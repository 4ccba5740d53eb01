import Iconsmith.Proofs.Files.Agreement
import Iconsmith.Proofs.Settings.RoundTrip
import Iconsmith.Proofs.Svg.Reading
import Iconsmith.Proofs.World.Comparison

/-! Writing the default settings where there were none makes no difference to a
later command. A command looks at the settings file only to load the settings,
and those are the defaults with and without it. -/
namespace Iconsmith

open Files Files.Tree

/-! ### Pictures in drawings -/

namespace Svg

/-- What no reference can show as an image, whatever the reference is. -/
def NoPicture (content : ByteArray) : Prop :=
  Picture.ofDrawing? content = none ∧ Picture.ofContent? content = none

/-- A file that is no picture can be there or not. -/
theorem Picture.find?_eq {library library' : Library}
    (h : ∀ reference, library' reference = library reference ∨
      library reference = none ∧ ∃ content, library' reference = some content ∧ NoPicture content) :
    find? library' = find? library := by
  funext reference
  unfold find?
  split
  · rfl
  · obtain hSame | ⟨hNone, content, hSome, hDrawing, hContent⟩ := h reference
    · rw [hSame]
    · simp [hNone, hSome, hDrawing, hContent]

/-- A drawing counts on a library only through the pictures that are found in it. -/
theorem render_congr {library library' : Library}
    (h : Picture.find? library' = Picture.find? library) : render library' = render library := by
  funext content size
  unfold render Scene.read
  rw [h]

end Svg

namespace Settings

/-- The content of a file that was written with the default settings. -/
def defaultContent : ByteArray := Settings.default.print.toUTF8

/-- Printed settings do not start with an element, and with no image either. -/
theorem noPicture_defaultContent : Svg.NoPicture defaultContent := by
  obtain ⟨rest, hText⟩ : ∃ rest, Settings.default.print.toList = '\x7b' :: rest := by
    have hBrace : "\x7b\n".toList = ['\x7b', '\n'] := String.toList_ofList
    rw [print, object]
    simp only [String.toList_append, hBrace, List.cons_append]
    exact ⟨_, rfl⟩
  obtain ⟨fault, hRefused⟩ :=
    Svg.Document.parse_refused hText (by decide) (by decide) (by decide)
  refine ⟨?_, by decide⟩
  rw [Svg.Picture.ofDrawing?, defaultContent,
    Svg.Document.read_toUTF8 (Svg.not_isGzip_of_cons hText (by decide)), hRefused]
  rfl

end Settings

namespace Action

/-! ### Actions on files that differ at one place -/

/-- The place may hold the default settings in the second tree where the first
has nothing. Both have the working directory of a given tree. -/
def Unseen (base : Tree) (p : Place) (t t' : Tree) : Prop :=
  t.home = base.home ∧ AddsAtMost p (.file Settings.defaultContent) t t'

variable {base : Tree} {p : Place} {path : String}

/-- The place stays off the way of a path in every tree that comes up. -/
theorem Unseen.clear {t t' : Tree} (h : Unseen base p t t') (hClear : ¬base.Along path p) :
    ¬t.Along path p := by
  rwa [along_of_home h.1]

theorem Unseen.avoids {t t' : Tree} (h : Unseen base p t t') (hClear : ¬base.Along path p) :
    t.Avoids path (· = p) :=
  avoids_eq (h.clear hClear)

/-- What happens off the place happens alike in both trees. -/
theorem blind_unseen (base : Tree) (p : Place) : Blind (· = p) (Unseen base p) :=
  ⟨fun h => h.2.agreesOff.resembles, fun e h hq hRoot => ⟨h.1, h.2.insert hq hRoot e⟩⟩

end Action

open Iconsmith.Action

/-- A drawing cannot show the settings file as an image, so that it looks the
same with and without that file, even if it refers to it. -/
theorem Convert.rendered_eq {base t t' : Tree} {p : Place} (h : Unseen base p t t') (s : Settings)
    (place : Place) (source : Entry) (size : Size) :
    rendered s t' place source size = rendered s t place source size := by
  have hPictures : Svg.Picture.find? (library t' place) = Svg.Picture.find? (library t place) := by
    refine Svg.Picture.find?_eq fun reference => ?_
    refine (h.2.read_cases (resolve place reference)).imp id fun ⟨hNone, hSome⟩ => ?_
    exact ⟨hNone, _, by rw [library, hSome]; rfl, Settings.noPicture_defaultContent⟩
  unfold rendered
  rw [Svg.render_congr hPictures]

section Clear

variable {base : Tree} {p : Place}

/-- A conversion does not come by the place, so that it goes on in the same way. -/
theorem Convert.matched_steps (s : Settings) {svg png : String} (size : Option Size)
    (choices : Png.Choices) (hSvg : ¬base.Along svg p) (hPng : ¬base.Along png p) :
    Matched (Unseen base p) (steps s svg png size choices) (steps s svg png size choices) := by
  refine matched_files_bind fun t t' h => ?_
  rw [h.2.locate_eq (h.clear hSvg)]
  split
  · exact matched_throw _
  · dsimp only
    split
    · exact matched_throw _
    · rw [rendered_eq h]
      split
      · exact matched_throw _
      · refine Matched.bind ?_ fun _ => matched_pure _
        exact Saving.matched_savePng (blind_unseen base p) (fun _ _ h => h.avoids hPng) _ choices

/-- Neither does the fitting of an image into an icon. -/
theorem Shrink.matched_steps (s : Settings) {input output : String} (choices : Png.Choices)
    (hInput : ¬base.Along input p) (hOutput : ¬base.Along output p) :
    Matched (Unseen base p) (steps s input output choices) (steps s input output choices) := by
  refine (Loading.matched_load s fun t t' h => h.2.locate_eq (h.clear hInput)).bind fun image => ?_
  refine (Canvas.matched_fit s image).bind fun result => ?_
  refine Matched.bind ?_ fun _ => matched_pure _
  exact Saving.matched_savePng (blind_unseen base p) (fun _ _ h => h.avoids hOutput) _ choices

end Clear

theorem Settings.matched_validOrFail {R : Tree → Tree → Prop} (s : Settings) :
    Matched R (validOrFail s) (validOrFail s) := by
  unfold validOrFail
  split
  · exact matched_pure _
  · exact matched_throw _

/-- Settings that are the same in both files are loaded in both. -/
theorem Settings.same_after_load {R : Tree → Tree → Prop} {α : Type} {config : String}
    {next : Settings → Action CommandError α} (hNext : ∀ s, Matched R (next s) (next s))
    {w w' : World} (h : R w.files w'.files)
    (hStored : stored w'.files config = stored w.files config) :
    ((load config >>= next).perform w').1 = ((load config >>= next).perform w).1 ∧
      R ((load config >>= next).perform w).2.files ((load config >>= next).perform w').2.files := by
  obtain ⟨log, hOld⟩ := perform_load_bind config next w
  obtain ⟨log', hNew⟩ := perform_load_bind config next w'
  rw [hOld, hNew, hStored]
  exact hNext _ ⟨w.files, log⟩ ⟨w'.files, log'⟩ h

namespace Command

/-- A command whose files stay clear of the place ends in the same way, as long
as the settings are the same. -/
theorem same_run {base : Tree} {p : Place} {config : String} {c : Command} (choices : Png.Choices)
    (hCommand : ∀ force, c ≠ .initConfig force) (hClear : ∀ path ∈ c.paths, ¬base.Along path p)
    {w w' : World} (h : Unseen base p w.files w'.files)
    (hStored : Settings.stored w'.files config = Settings.stored w.files config) :
    let first := (c.run config choices).perform w
    let second := (c.run config choices).perform w'
    second.1 = first.1 ∧ Unseen base p first.2.files second.2.files := by
  cases c with
  | initConfig force => exact absurd rfl (hCommand force)
  | convert svg png size fromFile =>
      refine Settings.same_after_load (fun s => ?_) h hStored
      refine (Settings.matched_validOrFail _).bind fun v => ?_
      have hSteps := Convert.matched_steps v.val size choices (hClear svg (by simp [paths]))
        (hClear png (by simp [paths]))
      exact (hSteps.reported _ _ _).operation.bind fun _ => matched_pure _
  | shrink input output filter canvas noUpscale =>
      refine Settings.same_after_load (fun s => ?_) h hStored
      refine (Settings.matched_validOrFail _).bind fun v => ?_
      have hSteps := Shrink.matched_steps v.val choices (hClear input (by simp [paths]))
        (hClear output (by simp [paths]))
      exact (hSteps.reported _ _ _).operation.bind fun _ => matched_pure _

end Command

/-! ### Writing the default settings -/

namespace Settings

/-- Nothing has to be created where the directory of the file exists. -/
theorem perform_prepareDirectory {config : String} {w : World}
    (hParent : ∀ above, parent? config = some above →
      above.isEmpty = true ∨ w.files.isDirectory above = true) :
    (prepareDirectory config).perform w = (.done (), w) := by
  unfold prepareDirectory
  cases hAbove : parent? config with
  | none => rfl
  | some above =>
      obtain hEmpty | hThere := hParent above hAbove
      · simp [hEmpty]
      · have hAll := createAll_of_isDirectory hThere
        by_cases hEmpty : above.isEmpty = true
        · simp [hEmpty]
        · simp [hEmpty, Action.perform_bind, hAll]

end Settings

namespace Command

variable {config : String} {w : World}

/-- Either the file with the default settings cannot be written, and nothing
happens, or it is the only thing that is new. -/
theorem files_runInit (force : Bool) (hAbsent : w.files.exists? config = false)
    (hParent : ∀ above, parent? config = some above →
      above.isEmpty = true ∨ w.files.isDirectory above = true) :
    ((runInit config force).perform w).2.files = w.files ∨
      w.files.find? (w.files.destination config) = none ∧
      ((runInit config force).perform w).2.files =
        w.files.insert (w.files.destination config) (.file Settings.defaultContent) ∧
      ((runInit config force).perform w).2.files.read config = .ok Settings.defaultContent := by
  have hSave : (runInit config force).perform w =
      (Settings.save config .default >>= fun _ =>
        Action.report .info .commands ("已写出默认配置: " ++ config)).perform w := by
    simp [runInit, Action.perform_bind, hAbsent]
  rw [hSave, Action.perform_bind, Settings.save, Action.perform_bind,
    Settings.perform_prepareDirectory hParent]
  dsimp only
  rw [Action.perform_bind, Action.perform_files]
  dsimp only
  rw [← Settings.defaultContent]
  cases hWrite : w.files.write config Settings.defaultContent with
  | error e => exact Or.inl rfl
  | ok t =>
      refine Or.inr ⟨find?_destination_of_absent hAbsent hWrite, ?_, read_write hWrite⟩
      obtain ⟨dir, name, hTargets, -, -, rfl⟩ := write_eq_ok hWrite
      rw [hTargets.destination_eq]
      rfl

/-- After the default settings were written, or could not be written, the
settings file stands for what it stood for before. -/
theorem unseen_runInit (force : Bool) (hAbsent : w.files.exists? config = false)
    (hParent : ∀ above, parent? config = some above →
      above.isEmpty = true ∨ w.files.isDirectory above = true) :
    Unseen w.files (w.files.destination config) w.files
        ((runInit config force).perform w).2.files ∧
      Settings.stored ((runInit config force).perform w).2.files config =
        Settings.stored w.files config := by
  obtain hSame | ⟨hFree, hInsert, hRead⟩ := files_runInit force hAbsent hParent
  · rw [hSame]
    exact ⟨⟨rfl, .refl _ _ _⟩, rfl⟩
  · obtain ⟨reason, hText⟩ := Settings.readText_of_not_exists hAbsent
    refine ⟨⟨rfl, hInsert ▸ addsAtMost_insert hFree⟩, ?_⟩
    rw [Settings.stored_of_text hRead, Settings.read_print]
    simp [Settings.stored, hText, Except.toOption]

end Command

/-- Writing the default settings where none are, in a directory that exists, is
neutral: a later command whose paths stay clear of the settings file ends as it
would have ended without them and leaves the same files, apart from the settings
themselves. -/
theorem Invocation.run_after_init (i : Invocation) (force : Bool) (choices : Png.Choices)
    (w : World) (hCommand : ∀ again, i.effective ≠ .initConfig again)
    (hAbsent : w.files.exists? i.config = false)
    (hParent : ∀ above, parent? i.config = some above →
      above.isEmpty = true ∨ w.files.isDirectory above = true)
    (hApart : ∀ path ∈ i.effective.paths, ¬w.files.Along path (w.files.destination i.config)) :
    let init : Invocation := ⟨i.config, some (.initConfig force)⟩
    let prepared := ((init.run choices).perform w).2
    ((i.run choices).perform prepared).1 = ((i.run choices).perform w).1 ∧
      AddsAtMost (w.files.destination i.config) (.file Settings.defaultContent)
        ((i.run choices).perform w).2.files ((i.run choices).perform prepared).2.files := by
  intro init prepared
  obtain ⟨hUnseen, hStored⟩ := Command.unseen_runInit force hAbsent hParent
  obtain ⟨hEnding, -, hAdds⟩ := Command.same_run choices hCommand hApart hUnseen hStored
  exact ⟨hEnding, hAdds⟩

/-- The command that runs when none is given, with a settings file in a directory
of its own. -/
theorem Invocation.run_after_init_bare :
    let i : Invocation := ⟨"conf/icon.json", none⟩
    let init : Invocation := ⟨"conf/icon.json", some (.initConfig false)⟩
    let w : World := ⟨⟨[(["work", "public", "vite.svg"], .file ⟨#[]⟩),
      (["work", "public"], .directory), (["work", "conf"], .directory),
      (["work"], .directory)], ["work"]⟩, []⟩
    let prepared := ((init.run .plain).perform w).2
    (prepared.files.find? ["work", "conf", "icon.json"]).isSome = true ∧
      ((i.run .plain).perform prepared).1 = ((i.run .plain).perform w).1 ∧
      AddsAtMost ["work", "conf", "icon.json"] (.file Settings.defaultContent)
        ((i.run .plain).perform w).2.files ((i.run .plain).perform prepared).2.files := by
  intro i init w prepared
  have hParent : ∀ above, parent? i.config = some above →
      above.isEmpty = true ∨ w.files.isDirectory above = true := by
    have hConf : parent? i.config = some "conf" := by decide
    rintro above hAbove
    obtain rfl := Option.some.inj (hConf.symm.trans hAbove)
    exact Or.inr (by decide)
  have hPlace : w.files.destination i.config = ["work", "conf", "icon.json"] := by decide
  obtain ⟨hEnding, hAdds⟩ := run_after_init i false .plain w
    (by simp [i, effective, Command.whenOmitted]) (by decide) hParent (by decide)
  exact ⟨by decide, hEnding, hPlace ▸ hAdds⟩

end Iconsmith
