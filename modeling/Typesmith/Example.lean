import Typesmith.Json.Decode
import Typesmith.FileTree
import Typesmith.Naming

/-! # Example documents

The recorded requests and responses of each endpoint.
-/

namespace Typesmith

structure Example where
  title : String := ""
  description : String := ""
  request : List (String × Json.Value) := []
  response : List (String × Json.Value) := []
  runCheck : Bool := false
  idempotent : Bool := false
  /-- An invocation written by hand; empty if there is none. -/
  shellRequest : String := ""
deriving Inhabited

namespace Example

def isRunnable (sample : Example) : Bool :=
  sample.runCheck && sample.idempotent

def hasCustomShell (sample : Example) : Bool :=
  !sample.shellRequest.isEmpty

open Json Tree

def memberNames : List String :=
  ["title", "description", "request", "response", "run_check", "idempotent", "shell_request"]

def attributes? (depth : Nat) : Option Tree → Option (List (String × Value)) :=
  withDefault? [] (within? (fun depth => dictionary? (value? depth)) depth)

def decode? : Nat → Tree → Option Example :=
  within? fun depth tree => do
    match ← record? memberNames tree with
    | [title, description, request, response, runCheck, idempotent, shellRequest] =>
      return {
        title := ← withDefault? "" text? title
        description := ← withDefault? "" text? description
        request := ← attributes? depth request
        response := ← attributes? depth response
        runCheck := ← withDefault? false bool? runCheck
        idempotent := ← withDefault? false bool? idempotent
        shellRequest := ← withDefault? "" text? shellRequest }
    | _ => none

end Example

structure ExampleDocument where
  endpoints : Dict (List Example) := .empty
deriving Inhabited

namespace ExampleDocument

open Json Tree

def decode? : Nat → Tree → Option ExampleDocument :=
  within? fun depth tree => do
    let endpoints ← dictionary? (within? (fun depth => list? (Example.decode? depth)) depth) tree
    return ⟨Dict.ofList endpoints⟩

def parse (text : String) : Except Error ExampleDocument :=
  match (Tree.parse? text).bind (decode? depthLimit) with
  | some document => .ok document
  | none => .error (.json "malformed example document")

/-- A missing file is an empty document. -/
def read (tree : FileTree) (path : String) : Except Error ExampleDocument :=
  if tree.exists? path then
    match tree.readText path with
    | .ok text => parse text
    | .error cause => .error (.io cause)
  else .ok {}

/-- Every example with its endpoint, by endpoint and in order. -/
def requests (document : ExampleDocument) : List (String × Example) :=
  document.endpoints.entries.flatMap fun (endpoint, examples) => examples.map (endpoint, ·)

def isEmpty (document : ExampleDocument) : Bool :=
  document.endpoints.values.all List.isEmpty

end ExampleDocument

end Typesmith
