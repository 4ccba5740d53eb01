import Iconsmith.Program
import Iconsmith.Proofs.World.Observation

/-! How failures are reported. An operation on icons reports its own failure, a
command reports nothing, and the program reports what no operation has. So one
error stands for one failure, whatever the files are. -/
namespace Iconsmith

open Iconsmith.Action

namespace Saving

theorem keeps_errors_prepareDirectory (path : String) :
    (prepareDirectory path).Keeps World.errors := by
  unfold prepareDirectory
  split
  · exact keeps_pure _
  · refine keeps_files.bind fun t => ?_
    split
    · exact keeps_pure _
    · refine (keeps_setFiles_errors _).bind fun _ => ?_
      split
      · exact keeps_throw _
      · exact keeps_pure _

/-- Saving an image reports no error of its own. -/
theorem keeps_errors_savePng (image : Bitmap) (path : String) (choices : Png.Choices) :
    (savePng image path choices).Keeps World.errors := by
  refine (keeps_errors_prepareDirectory path).bind fun _ => keeps_files.bind fun t => ?_
  split
  · exact keeps_setFiles_errors _
  · exact keeps_throw _

end Saving

/-- The steps of a conversion report no error; the operation around them does. -/
theorem Convert.keeps_errors_steps (s : Settings) (svg png : String) (size : Option Size)
    (choices : Png.Choices) : (steps s svg png size choices).Keeps World.errors := by
  refine keeps_files.bind fun t => ?_
  split
  · exact keeps_throw _
  · dsimp only
    split
    · exact keeps_throw _
    · split
      · exact keeps_throw _
      · exact (Saving.keeps_errors_savePng _ png choices).bind fun _ => keeps_pure _

theorem Shrink.keeps_errors_steps (s : Settings) (input output : String) (choices : Png.Choices) :
    (steps s input output choices).Keeps World.errors := by
  refine (Loading.keeps_load unmoved_errors s input).bind fun image => ?_
  refine (Canvas.keeps_fit unmoved_errors s image).bind fun result => ?_
  exact (Saving.keeps_errors_savePng _ output choices).bind fun _ => keeps_pure _

namespace Action

variable {α β : Type}

/-- The errors before and after part of a command that ended somehow. Only a
failure of an operation on icons has left one, with the failure's message. -/
def Accounted (before : List Record) (ending : Ending CommandError α) (after : List Record) :
    Prop :=
  match ending with
  | .failed (.icon f) => ∃ r, after = before ++ [r] ∧ r.origin ≠ .program ∧
      f.message.toList <:+: r.text.toList
  | _ => after = before

/-- The errors are accounted for however the action ends. -/
def Accounts (a : Action CommandError α) : Prop :=
  ∀ w, Accounted w.errors (a.perform w).1 (a.perform w).2.errors

/-- What reports no error, and fails for no reason of an operation, accounts for the errors. -/
theorem accounts_of_keeps {a : Action CommandError α} (hKeeps : a.Keeps World.errors)
    (hIcon : ∀ w f, (a.perform w).1 ≠ .failed (.icon f)) : a.Accounts := by
  intro w
  have hErrors := hKeeps w
  unfold Accounted
  split
  · next f hEnding => exact absurd hEnding (hIcon w f)
  · exact hErrors

theorem accounts_pure (r : α) : (pure r : Action CommandError α).Accounts := fun _ => rfl

theorem accounts_throw_io (reason : String) :
    (throw (.io reason) : Action CommandError α).Accounts := fun _ => rfl

theorem accounts_throw_settings (reason : String) :
    (throw (.settings reason) : Action CommandError α).Accounts := fun _ => rfl

theorem accounts_files : (files : Action CommandError Files.Tree).Accounts := fun _ => rfl

theorem accounts_setFiles (t : Files.Tree) : (setFiles t : Action CommandError Unit).Accounts :=
  fun _ => rfl

theorem accounts_report {level : Level} (hLevel : level ≠ .error) (origin : Origin)
    (text : String) : (report level origin text : Action CommandError Unit).Accounts :=
  fun w => keeps_report unmoved_errors hLevel origin text w

/-- Steps account for the errors if each does. The first failure ends them, so there is at most
one. -/
theorem Accounts.bind {a : Action CommandError α} {next : α → Action CommandError β}
    (ha : a.Accounts) (hNext : ∀ r, (next r).Accounts) : (a >>= next).Accounts := by
  intro w
  have hFirst := ha w
  rw [perform_bind]
  cases h : a.perform w with
  | mk ending w' =>
      rw [h] at hFirst
      cases ending with
      | done r =>
          have hErrors : w'.errors = w.errors := hFirst
          have hRest := hNext r w'
          rwa [hErrors] at hRest
      | failed e => cases e <;> exact hFirst
      | crashed c => exact hFirst

theorem Accounts.optional {c : Prop} [Decidable c] {a : Action CommandError PUnit}
    {next : PUnit → Action CommandError β} (ha : a.Accounts) (hNext : ∀ u, (next u).Accounts) :
    (if c then a >>= next else next ⟨⟩).Accounts := by
  split
  · exact ha.bind hNext
  · exact hNext _

end Action

namespace Settings

/-- Settings are loaded without errors; what is wrong with the file is a warning. -/
theorem accounts_load (path : String) : (load path : Action CommandError Settings).Accounts := by
  refine accounts_of_keeps (keeps_load unmoved_errors path) fun w f => ?_
  obtain ⟨r, -, hLoad⟩ := perform_load (ε := CommandError) path w
  simp [hLoad]

/-- Settings that are refused are left to the program to report. -/
theorem accounts_validOrFail (s : Settings) : (validOrFail s).Accounts := by
  unfold validOrFail
  split
  · exact accounts_pure _
  · exact accounts_throw_settings _

theorem accounts_prepareDirectory (path : String) : (prepareDirectory path).Accounts := by
  unfold prepareDirectory
  split
  · exact accounts_pure _
  · split
    · exact accounts_pure _
    · refine accounts_files.bind fun t => (accounts_setFiles _).bind fun _ => ?_
      split
      · exact accounts_throw_io _
      · exact accounts_pure _

theorem accounts_save (path : String) (s : Settings) : (save path s).Accounts := by
  refine (accounts_prepareDirectory path).bind fun _ => accounts_files.bind fun t => ?_
  split
  · exact accounts_setFiles _
  · exact accounts_throw_io _

end Settings

/-- A text with a label in front contains the text. -/
theorem toList_infix_append (label text : String) : text.toList <:+: (label ++ text).toList := by
  rw [String.toList_append]
  exact (List.suffix_append _ _).isInfix

namespace Command

/-- An operation whose steps leave the errors alone reports its failure once,
and the message of the report contains the failure's. -/
theorem accounts_operation {α : Type} {steps : Action Failure α}
    (hSteps : steps.Keeps World.errors) {origin : Origin} (hOrigin : origin ≠ .program)
    (success : α → String) {failure : Failure → String}
    (hMessage : ∀ f, f.message.toList <:+: (failure f).toList) :
    (operation (reported origin success failure steps)).Accounts := by
  intro w
  have hErrors := hSteps w
  rw [perform_operation, perform_reported]
  cases h : steps.perform w with
  | mk ending w' =>
      rw [h] at hErrors
      cases ending with
      | done r => exact (unmoved_errors w' ⟨.info, origin, _⟩ nofun).trans hErrors
      | crashed c => exact hErrors
      | failed f =>
          refine ⟨⟨.error, origin, failure f⟩, ?_, hOrigin, hMessage f⟩
          rw [← hErrors]
          simp [World.errors]

theorem accounts_runInit (config : String) (force : Bool) : (runInit config force).Accounts := by
  refine accounts_files.bind fun t => (accounts_throw_settings _).optional fun _ => ?_
  exact (Settings.accounts_save config .default).bind fun _ => accounts_report (by decide) _ _

/-- Every command accounts for the errors. -/
theorem accounts_run (config : String) (c : Command) (choices : Png.Choices) :
    (c.run config choices).Accounts := by
  cases c with
  | initConfig force => exact accounts_runInit config force
  | convert svg png size fromFile =>
      refine (Settings.accounts_load config).bind fun s => ?_
      refine (Settings.accounts_validOrFail _).bind fun v => ?_
      exact (accounts_operation (Convert.keeps_errors_steps v.val svg png size choices) (by decide)
        _ fun f => toList_infix_append _ f.message).bind fun _ => accounts_pure _
  | shrink input output filter canvas noUpscale =>
      refine (Settings.accounts_load config).bind fun s => ?_
      refine (Settings.accounts_validOrFail _).bind fun v => ?_
      exact (accounts_operation (Shrink.keeps_errors_steps v.val input output choices) (by decide)
        _ fun f => toList_infix_append _ f.message).bind fun _ => accounts_pure _

end Command

namespace Program

/-- How the process ends and what errors it leaves follow from how the command
ends. Where no operation has reported the failure the program does. -/
theorem perform_cases (i : Invocation) (w : World) (choices : Png.Choices) :
    let performed := perform i w choices
    match ((i.run choices).perform w).1 with
    | .done () => performed.1 = .success ∧ performed.2.errors = w.errors
    | .failed e => performed.1 = .failure ∧
        ∃ r, performed.2.errors = w.errors ++ [r] ∧ e.message.toList <:+: r.text.toList ∧
          (r.origin = .program ↔ e.alreadyReported = false)
    | .crashed c => performed.1 = .crash c ∧ performed.2.errors = w.errors := by
  have hAccounted : Accounted w.errors ((i.run choices).perform w).1
      ((i.run choices).perform w).2.errors :=
    Command.accounts_run i.config i.effective choices w
  unfold perform
  cases h : (i.run choices).perform w with
  | mk ending w' =>
      rw [h] at hAccounted
      cases ending with
      | done u => exact ⟨rfl, hAccounted⟩
      | crashed c => exact ⟨rfl, hAccounted⟩
      | failed e =>
          refine ⟨rfl, ?_⟩
          -- Operations on icons report their own failures, all else is left to the program.
          cases hReported : e.alreadyReported with
          | true =>
              obtain ⟨f, rfl⟩ : ∃ f, e = .icon f := by
                cases e <;> simp_all [CommandError.alreadyReported]
              obtain ⟨r, hErrors, hOrigin, hText⟩ := hAccounted
              refine ⟨r, ?_, hText, by simp [hOrigin]⟩
              rw [← hErrors]
              exact unmoved_errors w' ⟨.debug, .program, _⟩ nofun
          | false =>
              have hErrors : w'.errors = w.errors := by
                cases e with
                | icon f => simp [CommandError.alreadyReported] at hReported
                | io reason => exact hAccounted
                | settings reason => exact hAccounted
              refine ⟨⟨.error, .program, "执行失败: " ++ e.message⟩, ?_,
                toList_infix_append _ _, by simp⟩
              rw [← hErrors]
              simp [World.errors, hReported]

end Program

/-- The lines of the output that show errors. -/
def Outcome.errorLines (o : Outcome) : List String :=
  o.errors.filter fun line => "[ERROR ".toList.isPrefixOf line.toList

/-- Of all records exactly the errors make such a line. -/
theorem Record.isPrefixOf_line (r : Record) :
    "[ERROR ".toList.isPrefixOf r.line.toList = decide (r.level = .error) := by
  cases hLevel : r.level <;>
    simp only [Record.line, hLevel, Level.name, String.toList_append, String.toList_ofList] <;> rfl

/-- Without a filter every error is shown. -/
theorem LogFilter.shows_default {r : Record} (h : r.level = .error) :
    LogFilter.default.shows r = true := by
  simp [shows, default, directiveFor, h, Level.rank]

/-- Without a filter the output shows the errors as they were reported. -/
theorem Program.errorLines_run {args : List String} {i : Invocation}
    (hParse : Command.parse args = .ok i) (t : Files.Tree) (choices : Png.Choices) :
    (run args none t choices).1.errorLines =
      (perform i ⟨t, []⟩ choices).2.errors.map Record.line := by
  have hCrash (e : Exit) : e.lines.filter (fun l => "[ERROR ".toList.isPrefixOf l.toList) = [] := by
    rcases e with _ | _ | c
    · rfl
    · rfl
    · cases c <;> rfl
  simp only [Outcome.errorLines, run, hParse, List.filter_append, hCrash, List.append_nil,
    List.nil_append, List.filter_map, List.filter_filter, World.errors]
  congr 1
  refine List.filter_congr fun r _ => ?_
  simp only [Function.comp_apply, Record.isPrefixOf_line]
  by_cases hLevel : r.level = .error
  · simp [hLevel, LogFilter.shows_default hLevel]
  · simp [hLevel]

/-- A process reports a failure of its command exactly once, with the whole
message of the failure, and exits with 1; a command that succeeds leaves no
error, and the process exits with 0. The report is the program's own if and only
if no operation made it. Unless a filter hides it, it is the one line of the
output that shows an error. -/
theorem Program.run_reports_once {args : List String} {i : Invocation}
    (hParse : Command.parse args = .ok i) (filter : Option String) (t : Files.Tree)
    (choices : Png.Choices) :
    let errors := (perform i ⟨t, []⟩ choices).2.errors
    let code := (run args filter t choices).1.code
    let shown := (run args none t choices).1.errorLines
    match ((i.run choices).perform ⟨t, []⟩).1 with
    | .done () => code = 0 ∧ errors = [] ∧ shown = []
    | .failed e => code = 1 ∧
        ∃ r, errors = [r] ∧ e.message.toList <:+: r.text.toList ∧
          (r.origin = .program ↔ e.alreadyReported = false) ∧ shown = [r.line]
    | .crashed _ => code = 101 ∧ errors = [] := by
  intro errors code shown
  have hCode : code = (perform i ⟨t, []⟩ choices).1.code := by
    simp only [code, run, hParse]
  have hLines : shown = (perform i ⟨t, []⟩ choices).2.errors.map Record.line :=
    errorLines_run hParse t choices
  have hCases := perform_cases i ⟨t, []⟩ choices
  cases hEnding : ((i.run choices).perform ⟨t, []⟩).1 with
  | done u =>
      simp only [hEnding] at hCases
      obtain ⟨hExit, hErrors⟩ := hCases
      exact ⟨by rw [hCode, hExit]; rfl, hErrors, by rw [hLines, hErrors]; rfl⟩
  | failed e =>
      simp only [hEnding] at hCases
      obtain ⟨hExit, r, hErrors, hText, hOrigin⟩ := hCases
      exact ⟨by rw [hCode, hExit]; rfl, r, hErrors, hText, hOrigin, by rw [hLines, hErrors]; rfl⟩
  | crashed c =>
      simp only [hEnding] at hCases
      obtain ⟨hExit, hErrors⟩ := hCases
      exact ⟨by rw [hCode, hExit]; rfl, hErrors⟩

/-- A bitmap that does not exist, without any files and with a filter that hides
everything. -/
theorem Program.run_reports_once_noBitmap :
    let i : Invocation := ⟨"icon-tool.json", some (.shrink "a.png" "b.png" none none false)⟩
    Command.parse ["shrink", "a.png", "b.png"] = .ok i ∧
      (run ["shrink", "a.png", "b.png"] (some "off") .empty .plain).1.code = 1 ∧
      ∃ r, (perform i ⟨.empty, []⟩ .plain).2.errors = [r] ∧
        (Failure.noBitmap "a.png").message.toList <:+: r.text.toList ∧ r.origin ≠ .program := by
  intro i
  have hParse : Command.parse ["shrink", "a.png", "b.png"] = .ok i := rfl
  have hEnding : ((i.run .plain).perform ⟨.empty, []⟩).1 =
      .failed (.icon (.noBitmap "a.png")) := by
    decide
  have hOnce := run_reports_once hParse (some "off") .empty .plain
  simp only [hEnding] at hOnce
  obtain ⟨hCode, r, hErrors, hText, hOrigin, -⟩ := hOnce
  exact ⟨hParse, hCode, r, hErrors, hText, by simp [hOrigin, CommandError.alreadyReported]⟩

end Iconsmith
