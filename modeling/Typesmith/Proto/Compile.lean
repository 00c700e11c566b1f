import Typesmith.FileTree
import Typesmith.Proto.Options
import Typesmith.Proto.Source

/-! # Compiling protobuf sources

A source is read with everything that it imports. Imports are files below the directory of the
source, or well-known files; no file may import itself, not even through others.
-/

namespace Typesmith.Proto

def importedFile? (tree : FileTree) (directory name : String) : Option FileDecl :=
  match tree.readText (Path.join directory name) with
  | .ok source => FileDecl.parse? name source
  | .error .notFound | .error .notADirectory => WellKnown.file? name
  | .error _ => none

/-- Adds files to those already loaded, each after its imports. `above` are the files on the way
here, which may not be imported again; every level takes one of `depth`. -/
def load? (tree : FileTree) (directory : String) :
    Nat → List String → List FileDecl → List String → Option (List FileDecl)
  | 0, _, _, _ => none
  | depth + 1, above, loaded, names =>
    names.foldlM (fun loaded name =>
      if (file? loaded name).isSome then some loaded
      else if above.contains name then none
      else do
        let file ← importedFile? tree directory name
        let loaded ← load? tree directory depth (name :: above) loaded file.imports
        return loaded ++ [file]) loaded

def importDepth : Nat := 1000

/-- A source and its imports, each after its own imports. -/
def sources? (tree : FileTree) (path : String) : Option (List FileDecl) := do
  let name ← Path.fileName? path
  let file ← match tree.readText path with
    | .ok source => FileDecl.parse? name source
    | .error _ => none
  let loaded ← load? tree (Path.parent path) importDepth [name] [] file.imports
  return loaded ++ [file]

/-- The names that some names lead to through imports, as far as the files are there. -/
def reachable (tree : FileTree) (directory : String) : Nat → List String → List String → List String
  | 0, seen, _ | _, seen, [] => seen
  | steps + 1, seen, name :: pending =>
    if seen.contains name then reachable tree directory steps seen pending
    else
      let imports := match importedFile? tree directory name with
        | some file => file.imports
        | none => []
      reachable tree directory steps (seen ++ [name]) (pending ++ imports)

def importPaths (tree : FileTree) (path : String) : List String :=
  let directory := Path.parent path
  let imports := match (tree.readText path).map (FileDecl.parse? path) with
    | .ok (some file) => file.imports
    | _ => []
  (reachable tree directory importDepth [] imports).map (Path.join directory)

def Pool.compile? (tree : FileTree) (path : String) : Option Pool := do
  let files ← sources? tree path
  let pool ← Pool.ofFiles? files
  if files.all (·.optionsValid pool files) then some pool else none

end Typesmith.Proto
