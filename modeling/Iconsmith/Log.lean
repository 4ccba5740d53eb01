/-!
What a run reports: records with a level, each from one part of the program.
-/

namespace Iconsmith

inductive Level where
  | debug
  | info
  | warn
  | error
deriving DecidableEq, Repr

namespace Level

def name : Level → String
  | .debug => "DEBUG"
  | .info => "INFO"
  | .warn => "WARN"
  | .error => "ERROR"

def rank : Level → Nat
  | .debug => 0
  | .info => 1
  | .warn => 2
  | .error => 3

end Level

inductive Origin where
  | program
  | commands
  | settings
  | loading
  | padding
  | rendering
deriving DecidableEq, Repr

def Origin.name : Origin → String
  | .program => "icon_tool"
  | .commands => "icon_tool::cli"
  | .settings => "icon_tool::settings"
  | .loading => "icon_tool::icon::loader"
  | .padding => "icon_tool::icon::pad"
  | .rendering => "icon_tool::icon::rasterize"

structure Record where
  level : Level
  origin : Origin
  text : String
deriving DecidableEq, Repr

namespace Record

/-- A record as one line of output; the level takes five columns. -/
def line (r : Record) : String :=
  let name := r.level.name
  let gap := String.ofList (List.replicate (5 - name.length) ' ')
  "[" ++ name ++ gap ++ " " ++ r.origin.name ++ "] " ++ r.text

end Record
end Iconsmith
