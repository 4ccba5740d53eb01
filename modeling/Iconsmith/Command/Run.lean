import Iconsmith.Command.Basic
import Iconsmith.Convert
import Iconsmith.Settings.Store
import Iconsmith.Shrink

/-!
Running a command: the settings are loaded, options replace some of them, and what results must be
valid before anything else happens.
-/

namespace Iconsmith

namespace Settings

/-- The settings of a conversion: with `fromFile` the source itself is rendered. -/
def forConvert (s : Settings) (fromFile : Bool) : Settings :=
  if fromFile then { s with drawing := .file } else s

/-- The settings for shrinking: options that were given replace what the file says. -/
def forShrink (s : Settings) (filter : Option Filter) (canvas : Option UInt32) (noUpscale : Bool) :
    Settings :=
  { s with
    filter := filter.getD s.filter
    canvasSize := canvas.getD s.canvasSize
    allowUpscale := s.allowUpscale && !noUpscale }

/-- Valid settings, or the complaint about them as a failure of the command. -/
def validOrFail (s : Settings) : Action CommandError ValidSettings :=
  match s.validate with
  | .ok v => return v
  | .error f => throw (.settings f.message)

end Settings

namespace Command

/-- An operation on icons as part of a command. -/
def operation {α : Type} (a : Action Failure α) : Action CommandError α := do
  match ← a.run with
  | .ok r => return r
  | .error f => throw (.icon f)

/-- As part of a command an operation ends as it does alone; its failure is one of the icon. -/
theorem perform_operation {α : Type} (a : Action Failure α) (w : World) :
    (operation a).perform w = match a.perform w with
      | (.done r, w) => (.done r, w)
      | (.failed f, w) => (.failed (.icon f), w)
      | (.crashed c, w) => (.crashed c, w) := by
  unfold Action.perform operation
  simp only [liftM, monadLift, MonadLift.monadLift, ExceptT.lift, bind, ExceptT.bind,
    ExceptT.bindCont, ExceptT.mk, ExceptT.map, ExceptT.run, StateT.bind, Functor.map]
  cases a w with
  | mk ending w =>
      cases ending with
      | error c => rfl
      | ok result => cases result <;> rfl

def runInit (config : String) (force : Bool) : Action CommandError Unit := do
  if (← Action.files).exists? config && !force then
    throw (.settings ("配置文件已存在: " ++ config ++ "（使用 --force 覆盖）"))
  Settings.save config .default
  Action.report .info .commands ("已写出默认配置: " ++ config)

def run (config : String) (command : Command) (choices : Png.Choices) :
    Action CommandError Unit :=
  match command with
  | .initConfig force => runInit config force
  | .convert svg png size fromFile => do
    let s ← Settings.validOrFail ((← Settings.load config).forConvert fromFile)
    let _ ← operation (Convert.run s svg png size choices)
  | .shrink input output filter canvas noUpscale => do
    let s ← Settings.validOrFail ((← Settings.load config).forShrink filter canvas noUpscale)
    let _ ← operation (Shrink.run s input output choices)

end Command

def Invocation.run (i : Invocation) (choices : Png.Choices := .plain) : Action CommandError Unit :=
  Command.run i.config i.effective choices

end Iconsmith
