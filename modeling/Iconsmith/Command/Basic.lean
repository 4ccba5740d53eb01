import Iconsmith.Settings

/-!
What a user can ask for: the commands with their arguments, and the settings file they use.
-/

namespace Iconsmith

/-- A command with its arguments as given; `none` stands for an option that was not given. -/
inductive Command where
  | convert (svg png : String) (size : Option Size) (fromFile : Bool)
  /-- Fit a bitmap into the canvas and write it as a PNG file. -/
  | shrink (input output : String) (filter : Option Filter) (canvas : Option UInt32)
      (noUpscale : Bool)
  | initConfig (force : Bool)
deriving DecidableEq, Repr

/-- A whole command line: the path of the settings file, and the command unless it was left
out. -/
structure Invocation where
  config : String
  command : Option Command
deriving DecidableEq, Repr

namespace Command

def defaultConfig : String := "icon-tool.json"

/-- Drawing converted when no command is given. -/
def defaultDrawing : String := "public/vite.svg"

def defaultBitmap : String := "sheetmusic.png"

def defaultOutput : String := "icon.png"

def defaultIconSize : Size := ⟨512, 512⟩

/-- What runs when no command is given. -/
def whenOmitted : Command := .convert defaultDrawing defaultOutput (some defaultIconSize) false

/-- The files that a command reads or writes, those apart that a drawing refers to. -/
def paths : Command → List String
  | convert svg png _ _ => [svg, png]
  | shrink input output _ _ _ => [input, output]
  | initConfig _ => []

def drawing? : Command → Option String
  | convert svg _ _ _ => some svg
  | _ => none

end Command

namespace Invocation

/-- The command that runs. -/
def effective (i : Invocation) : Command := i.command.getD Command.whenOmitted

/-- The files that a run reads or writes, those apart that a drawing refers to. -/
def paths (i : Invocation) : List String := i.config :: i.effective.paths

end Invocation
end Iconsmith
