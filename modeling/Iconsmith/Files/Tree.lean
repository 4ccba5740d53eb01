import Iconsmith.Files.Path

/-!
The files that a run can see: a tree of directories and files, and the place in it from which
relative paths start. Every operation either succeeds or gives the reason of the system; one that
fails changes nothing.

The tree is simpler than a real one. An entry is a directory or a file with its content: there are
no links, so that different places are different entries, no devices or pipes, and no permissions,
so that every file can be read and replaced and every directory can be extended. There is always
room, and nobody else changes the tree. Paths and names are texts; names that are not Unicode do not
occur.
-/

namespace Iconsmith.Files

/-- The components of a place, from the root on. -/
abbrev Place := List String

inductive Entry where
  | file (content : ByteArray)
  | directory

inductive OsError where
  | notFound
  | alreadyExists
  | notDirectory
  | isDirectory
  | nameTooLong
  /-- A path with a null character is no path of the system. -/
  | nullInPath
deriving DecidableEq, Repr

def OsError.message : OsError → String
  | notFound => "No such file or directory (os error 2)"
  | alreadyExists => "File exists (os error 17)"
  | notDirectory => "Not a directory (os error 20)"
  | isDirectory => "Is a directory (os error 21)"
  | nameTooLong => "File name too long (os error 36)"
  | nullInPath => "file name contained an unexpected NUL byte"

/-- Why a path is refused before any place is looked at. -/
def refusal? (path : String) : Option OsError :=
  if '\x00' ∈ path.toList then some .nullInPath
  else if path.isEmpty then some .notFound
  else if 4096 ≤ path.utf8ByteSize then some .nameTooLong
  else none

/-- A tree: what stands at each place other than the root, and the working directory. -/
structure Tree where
  entries : List (Place × Entry)
  home : Place

namespace Tree

/-- A working directory without files. -/
def empty : Tree := ⟨[(["work"], .directory)], ["work"]⟩

/-- What stands at a place. The root is a directory. -/
def find? (t : Tree) (p : Place) : Option Entry :=
  if p = [] then some .directory else (t.entries.find? fun e => e.1 == p).map Prod.snd

def insert (t : Tree) (p : Place) (e : Entry) : Tree :=
  { t with entries := (p, e) :: t.entries.filter fun x => x.1 != p }

/-- Follow components from a place on. Every place passed through must be a directory. -/
def walk (t : Tree) (start : Place) : List String → Except OsError Place
  | [] => .ok start
  | c :: rest =>
    match t.find? start with
    | none => .error .notFound
    | some (.file _) => .error .notDirectory
    | some .directory =>
      if c = "." then walk t start rest
      else if c = ".." then walk t start.dropLast rest
      else if c.utf8ByteSize > 255 then .error .nameTooLong
      else
        match t.find? (start ++ [c]) with
        | none => .error .notFound
        | some _ => walk t (start ++ [c]) rest

def origin (t : Tree) (path : String) : Place := if isAbsolute path then [] else t.home

def locate (t : Tree) (path : String) : Except OsError (Place × Entry) :=
  match refusal? path with
  | some e => .error e
  | none =>
    match t.walk (t.origin path) (components path) with
    | .error e => .error e
    | .ok p =>
      match t.find? p with
      | none => .error .notFound
      | some (.file content) =>
        if endsInSlash path then .error .notDirectory else .ok (p, .file content)
      | some .directory => .ok (p, .directory)

def exists? (t : Tree) (path : String) : Bool :=
  match t.locate path with
  | .ok _ => true
  | .error _ => false

def isDirectory (t : Tree) (path : String) : Bool :=
  match t.locate path with
  | .ok (_, .directory) => true
  | _ => false

def read (t : Tree) (path : String) : Except OsError ByteArray :=
  match t.locate path with
  | .error e => .error e
  | .ok (_, .directory) => .error .isDirectory
  | .ok (_, .file content) => .ok content

/-- The place of the last component of a path, which need not exist, given that the directories in
front of it do. `none` stands for a path that ends in a dot or two dots or is the root. -/
def target (t : Tree) (path : String) : Except OsError (Option Place) :=
  match refusal? path, (components path).reverse with
  | some e, _ => .error e
  | none, [] => .ok none
  | none, c :: before =>
    match t.walk (t.origin path) before.reverse with
    | .error e => .error e
    | .ok dir =>
      match t.find? dir with
      | none => .error .notFound
      | some (.file _) => .error .notDirectory
      | some .directory =>
        if c = "." ∨ c = ".." then .ok none
        else if c.utf8ByteSize > 255 then .error .nameTooLong
        else .ok (some (dir ++ [c]))

/-- Write a file, which is created or loses its former content. -/
def write (t : Tree) (path : String) (content : ByteArray) : Except OsError Tree :=
  match t.target path with
  | .error e => .error e
  | .ok none => .error .isDirectory
  | .ok (some p) =>
    if endsInSlash path then .error .isDirectory
    else
      match t.find? p with
      | some .directory => .error .isDirectory
      | _ => .ok (t.insert p (.file content))

def createDirectory (t : Tree) (path : String) : Except OsError Tree :=
  match t.target path with
  | .error e => .error e
  | .ok none => .error .alreadyExists
  | .ok (some p) =>
    match t.find? p with
    | some _ => .error .alreadyExists
    | none => .ok (t.insert p .directory)

/-- Create a directory and those on the way to it. The tree is given back also after a failure,
since directories may have been created before it. `levels` bounds the number of parents. -/
def createDirectories : Nat → Tree → String → Tree × Option OsError
  | levels, t, path =>
    if path.isEmpty then (t, none)
    else
      match t.createDirectory path with
      | .ok t => (t, none)
      | .error .notFound =>
        match levels, parent? path with
        | levels + 1, some above =>
          match createDirectories levels t above with
          | (t, some e) => (t, some e)
          | (t, none) =>
            match t.createDirectory path with
            | .ok t => (t, none)
            | .error e => if t.isDirectory path then (t, none) else (t, some e)
        | _, _ => (t, some .notFound)
      | .error e => if t.isDirectory path then (t, none) else (t, some e)

def createAll (t : Tree) (path : String) : Tree × Option OsError :=
  createDirectories path.length t path

def remove (t : Tree) (path : String) : Tree :=
  match t.locate path with
  | .error _ => t
  | .ok (p, _) => { t with entries := t.entries.filter fun e => !p.isPrefixOf e.1 }

/-- The paths of all entries below the working directory, in the order of their bytes. A directory
ends in a slash. -/
def listing (t : Tree) : List String :=
  let below := t.entries.filterMap fun (p, e) =>
    if t.home.isPrefixOf p && p != t.home then
      let name := "/".intercalate (p.drop t.home.length)
      some (match e with | .file _ => name | .directory => name ++ "/")
    else none
  below.mergeSort fun a b => a ≤ b

end Tree
end Iconsmith.Files
