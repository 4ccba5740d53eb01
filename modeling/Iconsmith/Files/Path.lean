/-!
Paths as texts. A path is read component by component; empty components do not count. The parent of
a path is the text in front of its last component.
-/

namespace Iconsmith.Files

/-- The components of a path, blank ones left out. -/
def components (path : String) : List String :=
  ((path.toList.splitOn '/').filter fun c => !c.isEmpty).map String.ofList

def isAbsolute (path : String) : Bool := path.toList.head? == some '/'

/-- The path asks for a directory by a slash at its end. -/
def endsInSlash (path : String) : Bool := path.toList.getLast? == some '/'

/-- Cut the reversed characters of a path behind what is left when slashes, and components that
are a single dot, are dropped from its end. A dot at the very start stays. -/
def trimEnd : List Char → List Char
  | ['/'] => ['/']
  | '/' :: rest => trimEnd rest
  | ['.', '/'] => ['/']
  | '.' :: '/' :: rest => trimEnd rest
  | s => s

/-- The text of the parent directory, empty for a path of one component; `none` for a path without
components and for the root. -/
def parent? (path : String) : Option String :=
  let s := trimEnd path.toList.reverse
  if s.isEmpty || s = ['/'] then none
  else
    let above := s.dropWhile (· != '/')
    some (String.ofList (trimEnd above).reverse)

/-- The last component, unless it is a dot or two dots. -/
def fileName? (path : String) : Option String :=
  let s := (trimEnd path.toList.reverse).takeWhile (· != '/')
  let name := String.ofList s.reverse
  if name.isEmpty || name = ".." || name = "." then none else some name

/-- The part of a file name behind its last dot; a name that only starts with a dot has none. -/
def extension? (path : String) : Option String :=
  match fileName? path with
  | none => none
  | some name =>
    let reversed := name.toList.reverse
    match reversed.span (· != '.') with
    | (ext, _ :: stem) => if stem.isEmpty then none else some (String.ofList ext.reverse)
    | (_, []) => none

end Iconsmith.Files
