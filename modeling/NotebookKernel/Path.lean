/-!
File paths: texts whose components are separated by slashes.
-/

namespace NotebookKernel.Path

/-- The pieces between slashes. -/
def pieces : List Char → List (List Char)
  | [] => [[]]
  | c :: cs =>
    if c = '/' then [] :: pieces cs
    else
      match pieces cs with
      | [] => [[c]]
      | p :: ps => (c :: p) :: ps

/-- The path starts at the root of the file system. -/
def isAbsolute (path : List Char) : Bool :=
  path.head? = some '/'

/-- What a path consists of. -/
structure Components where
  absolute : Bool
  names : List (List Char)
  deriving DecidableEq, Repr, Inhabited

/-- The components of a path. Repeated slashes, a slash at the end and single dots after the first
component do not count. -/
def components (path : List Char) : Components :=
  let absolute := isAbsolute path
  let names := (pieces path).filter (· ≠ [])
  { absolute
    names :=
      match names with
      | [] => []
      | first :: rest =>
        let rest := rest.filter (· ≠ ['.'])
        if absolute ∧ first = ['.'] then rest else first :: rest }

/-- Two texts denote one path. -/
def same (a b : String) : Bool :=
  components a.toList = components b.toList

/-- A path seen from a directory; an absolute path replaces the directory. -/
def join (directory path : String) : String :=
  if isAbsolute path.toList ∨ directory = "" then path
  else if directory.toList.getLast? = some '/' then directory ++ path
  else directory ++ "/" ++ path

end NotebookKernel.Path
