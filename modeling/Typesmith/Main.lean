import Typesmith.CommandLine

/-! # The program

Files are fetched as the run asks for them, until it asks for no more.
-/

namespace Typesmith.Program

def fetch (tree : FileTree) (path : String) : IO FileTree := do
  let file := (← IO.currentDir) / path
  if ← file.isDir then return tree.write path .directory
  try
    return tree.write path (.file (.bytes (← IO.FS.readBinFile file).toList))
  catch _ => return tree

/-- Fetches what is wanted and not yet tried, a number of times. -/
def gather (arguments : List String) : Nat → List String → FileTree → IO FileTree
  | 0, _, tree => return tree
  | rounds + 1, tried, tree => do
    let wanted := ((CommandLine.wanted tree arguments).filter fun path =>
      !path.isEmpty && !tried.contains path).eraseDups
    if wanted.isEmpty then return tree
    gather arguments rounds (tried ++ wanted) (← wanted.foldlM fetch tree)

/-- Chains of imports are followed this far. -/
def rounds : Nat := 1000

end Typesmith.Program

open Typesmith in
def main (arguments : List String) : IO UInt32 := do
  let base := (Path.segments (← IO.currentDir).toString).filter (!·.isEmpty)
  let tree ← Program.gather arguments Program.rounds [] (FileTree.empty base)
  let outcome := CommandLine.run tree arguments
  IO.print outcome.stdout
  IO.eprint outcome.stderr
  return outcome.exit.toUInt32
