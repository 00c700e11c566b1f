import Typesmith.Generator

/-! # Sessions

A generator at work while files change. A service keeps what was read when it was last loaded; a
failed change changes nothing, and a query changes nothing but the warnings recorded.
-/

namespace Typesmith

structure Session where
  tree : FileTree
  generator : Generator
  diagnostics : Diagnostics := []
deriving Inhabited

namespace Session

inductive Change where
  | write (path : String) (entry : FileTree.Entry)
  | remove (path : String)
  | load (service : String)
deriving Repr

/-- The session after a change, unless the change fails. -/
def changed (session : Session) : Change → Except Error Session
  | .write path entry => .ok { session with tree := session.tree.write path entry }
  | .remove path =>
    match session.tree.remove path with
    | .ok tree => .ok { session with tree }
    | .error cause => .error (.io cause)
  | .load service => do
    return { session with generator := ← session.generator.load session.tree service }

def apply (session : Session) (change : Change) : Except Error Unit × Session :=
  match session.changed change with
  | .ok next => (.ok (), next)
  | .error error => (.error error, session)

/-- Asks the generator, and records the warnings. -/
def query {α : Type} (session : Session) (ask : FileTree → Generator → Report α) :
    Except Error α × Session :=
  let (outcome, diagnostics) := (ask session.tree session.generator).recordedOn session.diagnostics
  (outcome, { session with diagnostics })

/-- A session with some services loaded in order; the first failure is that of the whole. -/
def start (tree : FileTree) (config : Config) (services : List String) : Except Error Session := do
  let generator ← Generator.ofConfig config
  return { tree, generator := ← generator.loadAll tree services }

end Session

end Typesmith
