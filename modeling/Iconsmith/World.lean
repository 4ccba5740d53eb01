import Iconsmith.Failure
import Iconsmith.Files.Tree
import Iconsmith.Log

/-!
The surroundings of an operation: the files it can see and the reports it has made. An action may
read and change them, may fail, and may crash; what it did before it ended stays done.
-/

namespace Iconsmith

/-- The files and the reports so far, in order. -/
structure World where
  files : Files.Tree
  log : List Record

/-- Why a run breaks off without a result of its own. -/
inductive Crash where
  /-- A number is to be brought into a range without numbers. -/
  | emptyRange
  /-- The length of a buffer in bytes is no number of 64 bits. -/
  | bufferLength
  /-- A buffer is longer than one piece of memory can be. -/
  | capacity
deriving DecidableEq, Repr

def Crash.message : Crash → String
  | emptyRange => "assertion failed: min <= max"
  | bufferLength => "Buffer length in `ImageBuffer::new` overflows usize"
  | capacity => "capacity overflow"

/-- How an action ends. A failure is a result that the caller can act on, a crash is not. -/
inductive Ending (ε α : Type) where
  | done (result : α)
  | failed (error : ε)
  | crashed (crash : Crash)
deriving DecidableEq, Repr

/-- A computation that sees and changes the world. It may fail, and only a failure can be
caught. -/
abbrev Action (ε α : Type) := ExceptT ε (ExceptT Crash (StateM World)) α

namespace Action

def report {ε : Type} (level : Level) (origin : Origin) (text : String) : Action ε Unit :=
  modify fun w => { w with log := w.log ++ [⟨level, origin, text⟩] }

def files {ε : Type} : Action ε Files.Tree := do return (← get).files

def setFiles {ε : Type} (t : Files.Tree) : Action ε Unit := modify fun w => { w with files := t }

def crash {ε α : Type} (c : Crash) : Action ε α := ExceptT.lift (throw c)

/-- Take the steps of an operation and report how they end: a result at the level of information, a
failure, which is passed on, as an error. -/
def reported {ε α : Type} (origin : Origin) (success : α → String) (failure : ε → String)
    (steps : Action ε α) : Action ε α :=
  tryCatch (do
    let r ← steps
    report .info origin (success r)
    pure r) fun e => do
    report .error origin (failure e)
    throw e

/-- Run an action on a world. -/
def perform {ε α : Type} (a : Action ε α) (w : World) : Ending ε α × World :=
  match a.run.run w with
  | (.ok (.ok r), w) => (.done r, w)
  | (.ok (.error e), w) => (.failed e, w)
  | (.error c, w) => (.crashed c, w)

section Laws

variable {ε α β : Type} (w : World)

@[simp] theorem perform_pure (r : α) : (pure r : Action ε α).perform w = (.done r, w) := rfl

@[simp] theorem perform_throw (e : ε) : (throw e : Action ε α).perform w = (.failed e, w) := rfl

@[simp] theorem perform_crash (c : Crash) : (crash c : Action ε α).perform w = (.crashed c, w) := rfl

@[simp] theorem perform_report (level : Level) (origin : Origin) (text : String) :
    (report level origin text : Action ε Unit).perform w =
      (.done (), { w with log := w.log ++ [⟨level, origin, text⟩] }) := rfl

@[simp] theorem perform_files : (files : Action ε Files.Tree).perform w = (.done w.files, w) := rfl

@[simp] theorem perform_setFiles (t : Files.Tree) :
    (setFiles t : Action ε Unit).perform w = (.done (), { w with files := t }) := rfl

/-- A sequence ends where its first part does unless that part has a result. -/
theorem perform_bind (a : Action ε α) (next : α → Action ε β) :
    (a >>= next).perform w = match a.perform w with
      | (.done r, w) => (next r).perform w
      | (.failed e, w) => (.failed e, w)
      | (.crashed c, w) => (.crashed c, w) := by
  unfold perform
  simp only [bind, ExceptT.bind, ExceptT.bindCont, ExceptT.mk, ExceptT.run, StateT.bind]
  cases a w with
  | mk ending w =>
      cases ending with
      | error c => rfl
      | ok result => cases result <;> rfl

/-- A failure, and nothing else, is handed to the handler, in the world that it left behind. -/
theorem perform_tryCatch (a : Action ε α) (handle : ε → Action ε α) :
    (tryCatch a handle).perform w = match a.perform w with
      | (.failed e, w) => (handle e).perform w
      | (.done r, w) => (.done r, w)
      | (.crashed c, w) => (.crashed c, w) := by
  unfold perform
  simp only [tryCatch, tryCatchThe, MonadExceptOf.tryCatch, ExceptT.tryCatch, ExceptT.mk, bind,
    ExceptT.bind, ExceptT.bindCont, ExceptT.run, StateT.bind]
  cases a w with
  | mk ending w =>
      cases ending with
      | error c => rfl
      | ok result => cases result <;> rfl

/-- The report of an operation is the last thing it does. A crash is not reported. -/
theorem perform_reported (origin : Origin) (success : α → String) (failure : ε → String)
    (steps : Action ε α) :
    (reported origin success failure steps).perform w = match steps.perform w with
      | (.done r, w) => (.done r, { w with log := w.log ++ [⟨.info, origin, success r⟩] })
      | (.failed e, w) => (.failed e, { w with log := w.log ++ [⟨.error, origin, failure e⟩] })
      | (.crashed c, w) => (.crashed c, w) := by
  rw [reported, perform_tryCatch, perform_bind]
  cases steps.perform w with
  | mk ending w => cases ending <;> rfl

end Laws

end Action
end Iconsmith
