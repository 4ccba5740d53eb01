import Iconsmith.Program

/-!
The command line. The files that a run may touch are read first, the run itself is a function of
them, and what it changed is written at the end.
-/

namespace Iconsmith.Disk

open Files

def path (p : Place) : String := "/" ++ "/".intercalate p

/-- Add to a tree what stands along a path on the disk. The way ends where nothing stands. -/
def survey (t : Tree) (here : Place) : List String → IO Tree
  | [] => return t
  | c :: rest =>
    if c = "." then survey t here rest
    else if c = ".." then survey t here.dropLast rest
    else do
      let place := here ++ [c]
      match ← (IO.FS.readBinFile (path place)).toBaseIO with
      | .ok content => return t.insert place (.file content)
      | .error (.inappropriateType ..) => survey (t.insert place .directory) place rest
      | .error _ => return t

/-- Add to a tree what stands along some paths. -/
def surveyAll (t : Tree) (paths : List String) : IO Tree :=
  paths.foldlM (fun t p => survey t (t.origin p) (components p)) t

/-- What a drawing refers to, as whole paths. -/
def references (t : Tree) (drawing : String) : List String :=
  match t.locate drawing with
  | .ok (place, .file content) =>
    match Svg.Document.read content with
    | .ok d => d.references.map (Convert.resolve place)
    | .error _ => []
  | _ => []

/-- The tree that a run sees from a working directory. -/
def gather (home : String) (i : Invocation) : IO Tree := do
  let t ← surveyAll ⟨[], components home⟩ [home]
  let t ← surveyAll t i.paths
  match i.effective.drawing? with
  | some drawing => surveyAll t (references t drawing)
  | none => return t

/-- Write what is new in a tree, the oldest change first. -/
def store (before after : Tree) : IO Unit := do
  for (place, entry) in after.entries.reverse do
    match entry, before.find? place with
    | .directory, none => IO.FS.createDirAll (path place)
    | .file content, some (.file former) =>
      if content != former then IO.FS.writeBinFile (path place) content
    | .file content, _ => IO.FS.writeBinFile (path place) content
    | .directory, some _ => pure ()

end Iconsmith.Disk

open Iconsmith in
def main (args : List String) : IO UInt32 := do
  let home := (← IO.currentDir).toString
  let before ← match Command.parse args with
    | .ok i => Disk.gather home i
    | .error _ => pure (.empty : Files.Tree)
  let (outcome, after) := Program.run args (← IO.getEnv "RUST_LOG") before
  Disk.store before after
  IO.print outcome.output
  for line in outcome.errors do
    IO.eprintln line
  return outcome.code.toUInt32
