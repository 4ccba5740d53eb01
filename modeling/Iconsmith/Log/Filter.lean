import Iconsmith.Log
import Iconsmith.Text.Blank

/-!
Which records are shown. A filter is written as directives between commas: a level for everything,
the name of a part, or a name and a level; behind a slash stands a text that a record must contain.
-/

namespace Iconsmith

/-- A directive: the start of a part's name, empty for all parts, and the number of levels that are
shown, from the most serious one on. -/
structure LogDirective where
  name : String
  shown : Nat
deriving DecidableEq, Repr

structure LogFilter where
  directives : List LogDirective
  contains : String
deriving DecidableEq, Repr

namespace LogFilter

/-- The number of levels shown under a name, whatever the case of its letters. -/
def shownOf? (name : String) : Option Nat :=
  match String.ofList (name.toList.map Char.toLower) with
  | "off" => some 0
  | "error" => some 1
  | "warn" => some 2
  | "info" => some 3
  | "debug" => some 4
  | "trace" => some 5
  | _ => none

def default : LogFilter := ⟨[⟨"", 3⟩], ""⟩

def directive? (s : String) : Except String LogDirective :=
  match s.splitOn "=" with
  | [name] => .ok (match shownOf? name with | some n => ⟨"", n⟩ | none => ⟨name, 5⟩)
  | [name, level] =>
    let level := String.ofList (Text.trim level.toList)
    if level.isEmpty then .ok ⟨name, 5⟩
    else match shownOf? level with
      | some n => .ok ⟨name, n⟩
      | none => .error level
  | _ => .error s

/-- Add a directive; it replaces one for the same name. -/
def add (all : List LogDirective) (d : LogDirective) : List LogDirective :=
  all.filter (fun e => e.name != d.name) ++ [d]

/-- Read a filter. What is not understood is left out and complained about. -/
def parse (s : String) : LogFilter × List String :=
  let complaint (what : String) := "warning: invalid logging spec '" ++ what ++ "', ignoring it"
  match s.splitOn "/" with
  | mods :: rest =>
    if 1 < rest.length then
      (⟨[⟨"", 1⟩], ""⟩,
        ["warning: invalid logging spec '" ++ s ++ "' (too many '/'s), ignoring it"])
    else
      let words := ((mods.splitOn ",").map fun w => String.ofList (Text.trim w.toList)).filter
        fun w => !w.isEmpty
      let (directives, complaints) := words.foldl (fun (ds, cs) w =>
        match directive? w with
        | .ok d => (add ds d, cs)
        | .error what => (ds, cs ++ [complaint what])) ([], [])
      let directives := if directives.isEmpty then [⟨"", 1⟩] else directives
      (⟨directives, rest.headD ""⟩, complaints)
  | [] => (default, [])

/-- The directive for a part: of those whose name starts the part's name, the one with the longest
name. -/
def directiveFor (f : LogFilter) (part : String) : Option LogDirective :=
  (f.directives.filter fun d => part.startsWith d.name).foldl
    (fun best d => match best with
      | some b => if b.name.length ≤ d.name.length then some d else some b
      | none => some d) none

def shows (f : LogFilter) (r : Record) : Bool :=
  match f.directiveFor r.origin.name with
  | none => false
  | some d => 4 - r.level.rank ≤ d.shown &&
      (f.contains.isEmpty || 1 < (r.text.splitOn f.contains).length)

end LogFilter
end Iconsmith
