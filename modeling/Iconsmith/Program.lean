import Iconsmith.Command.Parser
import Iconsmith.Command.Run
import Iconsmith.Log.Filter

/-!
A run of the program as a whole: what it prints, what it reports, and the code it exits with.
-/

namespace Iconsmith

/-- What a run leaves behind besides files. -/
structure Outcome where
  code : Nat
  output : String
  errors : List String
deriving DecidableEq, Repr

namespace Program

/-- The lines of a text; a line feed at its end does not start another line. -/
def lines (s : String) : List String :=
  let all := s.splitOn "\n"
  if all.getLast? = some "" then all.dropLast else all

def refused (r : Command.Refusal) : Outcome :=
  if r.isRequested then ⟨0, r.message, []⟩ else ⟨2, "", lines r.message⟩

inductive Exit where
  | success
  | failure
  | crash (reason : Crash)
deriving DecidableEq, Repr

namespace Exit

def code : Exit → Nat
  | success => 0
  | failure => 1
  | crash _ => 101

/-- What is shown after the reports. -/
def lines : Exit → List String
  | crash c => [c.message]
  | _ => []

end Exit

/-- Run a command line and report a failure that has not been reported. -/
def perform (i : Invocation) (w : World) (choices : Png.Choices) : Exit × World :=
  match (i.run choices).perform w with
  | (.done (), w) => (.success, w)
  | (.failed e, w) =>
    let r : Record :=
      if e.alreadyReported then ⟨.debug, .program, "以非零状态退出: " ++ e.message⟩
      else ⟨.error, .program, "执行失败: " ++ e.message⟩
    (.failure, { w with log := w.log ++ [r] })
  | (.crashed c, w) => (.crash c, w)

/-- Run the program with arguments on files; the filter, if one is given, decides which records are
shown. -/
def run (args : List String) (filter : Option String) (files : Files.Tree)
    (choices : Png.Choices := .plain) : Outcome × Files.Tree :=
  let (filter, complaints) := match filter with
    | some s => LogFilter.parse s
    | none => (.default, [])
  match Command.parse args with
  | .error r =>
    let o := refused r
    ({ o with errors := complaints ++ o.errors }, files)
  | .ok i =>
    let (exit, w) := perform i ⟨files, []⟩ choices
    let shown := (w.log.filter filter.shows).map Record.line
    (⟨exit.code, "", complaints ++ shown ++ exit.lines⟩, w.files)

end Program
end Iconsmith
