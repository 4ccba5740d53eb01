import Iconsmith.Command.Basic

/-!
Spelling a command line: one list of arguments for each invocation.
-/

namespace Iconsmith.Command

/-- An option with its value, nothing when it is not given. -/
def spellOption (long : String) : Option String → List String
  | some v => ["--" ++ long, v]
  | none => []

/-- A flag, nothing when it is not given. -/
def spellFlag (long : String) (given : Bool) : List String := if given then ["--" ++ long] else []

def name : Command → String
  | .convert .. => "svg2png"
  | .shrink .. => "shrink"
  | .initConfig .. => "init-config"

def positionals : Command → List String
  | .convert svg png _ _ => [svg, png]
  | .shrink input output _ _ _ => [input, output]
  | .initConfig _ => []

def options : Command → List (List String)
  | .convert _ _ size fromFile =>
    [spellOption "size" (size.map Size.text), spellFlag "from-file" fromFile]
  | .shrink _ _ filter canvas noUpscale =>
    [spellOption "filter" (filter.map Filter.name),
      spellOption "canvas" (canvas.map fun n => Decimal.text n.toNat),
      spellFlag "no-upscale" noUpscale]
  | .initConfig force => [spellFlag "force" force]

/-- A command line that asks for an invocation: the settings file first, then the command, its
positional arguments, its options. -/
def spell (i : Invocation) : List String :=
  ["--config", i.config] ++
    (match i.command with
      | none => []
      | some c => c.name :: c.positionals ++ c.options.flatten)

end Iconsmith.Command
