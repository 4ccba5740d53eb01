import Iconsmith.Failure
import Iconsmith.Text.Blank
import Iconsmith.Text.Lowercase

/-!
Resampling filters by name.
-/

namespace Iconsmith

inductive Filter where
  | nearest
  | triangle
  | catmullRom
  | lanczos3
deriving DecidableEq, Repr

namespace Filter

/-- The name of a filter in settings files and on the command line. -/
def name : Filter → String
  | .nearest => "nearest"
  | .triangle => "triangle"
  | .catmullRom => "catmullrom"
  | .lanczos3 => "lanczos3"

def ofName? : String → Option Filter
  | "nearest" => some .nearest
  | "triangle" => some .triangle
  | "catmullrom" => some .catmullRom
  | "lanczos3" => some .lanczos3
  | _ => none

/-- Read a filter name. Blanks around it are dropped, case does not matter, and `lanczos` stands
for `lanczos3`. -/
def parse (s : String) : Except Failure Filter :=
  let plain := String.ofList (Text.lowercase (Text.trim s.toList))
  match if plain = "lanczos" then some .lanczos3 else ofName? plain with
  | some f => .ok f
  | none => .error (.unknownFilter plain)

theorem ofName?_name (f : Filter) : ofName? f.name = some f := by
  cases f <;> rfl

end Filter
end Iconsmith
