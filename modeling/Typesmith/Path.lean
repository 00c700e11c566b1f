/-! # Paths

Paths are texts with `/` between their components. Joining keeps the text of both sides; empty
components and all dots but a leading one have no meaning.
-/

namespace Typesmith.Path

/-- Joins a path to a directory; an absolute path replaces the directory. -/
def join (directory path : String) : String :=
  match path.toList with
  | '/' :: _ => path
  | _ =>
    match directory.toList.getLast? with
    | none | some '/' => directory ++ path
    | some _ => directory ++ "/" ++ path

inductive Component where
  | root
  | here
  | up
  | name (text : String)
deriving DecidableEq, Repr

def segments (path : String) : List String :=
  (path.toList.splitOn '/').map String.ofList

def components (path : String) : List Component :=
  let absolute := path.toList.head? = some '/'
  let parts := segments path
  let start :=
    if absolute then [.root] else if parts.head? = some "." then [.here] else []
  start ++ parts.filterMap fun part =>
    if part = "" ∨ part = "." then none
    else if part = ".." then some .up
    else some (.name part)

/-- Two paths are the same if their components are. -/
def same (p q : String) : Bool :=
  components p == components q

def fileName? (path : String) : Option String :=
  match (components path).getLast? with
  | some (.name text) => some text
  | _ => none

/-- What follows the last dot of the file name; a dot at its front starts no extension. -/
def extension? (path : String) : Option String := do
  let name ← fileName? path
  let reversed := name.toList.reverse
  let ending := reversed.takeWhile (· != '.')
  match reversed.drop ending.length with
  | '.' :: _ :: _ => return .ofList ending.reverse
  | _ => none

/-- The directory of a file: the text before the last slash, or the working directory. -/
def parent (path : String) : String :=
  let directory := (path.toList.reverse.dropWhile (· ≠ '/')).reverse
  match directory with
  | [] => "."
  | ['/'] => "/"
  | _ => .ofList directory.dropLast

end Typesmith.Path
