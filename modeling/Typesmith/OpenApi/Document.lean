import Typesmith.Error
import Typesmith.Naming
import Typesmith.OpenApi.Node
import Typesmith.Text.Replace

/-! # API documents

Named schemas, and the responses of each path. An endpoint is a schema whose name ends in `Request`;
it streams if its path answers with a response named `stream`.
-/

namespace Typesmith.OpenApi

structure PathItem where
  /-- The responses to a request, if the path takes any. -/
  responses : Option (Dict Json.Value) := none
deriving Inhabited

def PathItem.streams (item : PathItem) : Bool :=
  item.responses.any (·.contains "stream")

structure Document where
  schemas : Dict Node := .empty
  paths : Dict PathItem := .empty
deriving Inhabited

structure Endpoint where
  name : String
  requestType : String
  responseType : String
  streaming : Bool
  description : Option String
deriving DecidableEq, Repr

def requestSuffix : String := "Request"

def responseSuffix : String := "Response"

section

open Json Tree

def schemas? : Nat → Tree → Option (Dict Node) :=
  within? fun depth tree => do
    match ← record? ["schemas"] tree with
    | [schemas] =>
      withDefault? .empty (within? (fun depth tree =>
        (dictionary? (Node.decode? depth) tree).map Dict.ofList) depth) schemas
    | _ => none

def operation? : Nat → Tree → Option (Dict Json.Value) :=
  within? fun depth tree => do
    match ← record? ["responses"] tree with
    | [responses] =>
      withDefault? .empty (within? (fun depth tree =>
        (dictionary? (value? depth) tree).map Dict.ofList) depth) responses
    | _ => none

def PathItem.decode? : Nat → Tree → Option PathItem :=
  within? fun depth tree => do
    match ← record? ["post"] tree with
    | [post] => return ⟨← optional? (operation? depth) post⟩
    | _ => none

def Document.decode? : Nat → Tree → Option Document :=
  within? fun depth tree => do
    match ← record? ["components", "paths"] tree with
    | [components, paths] =>
      return {
        schemas := ← withDefault? .empty (schemas? depth) components
        paths := ← withDefault? .empty (within? (fun depth tree =>
          (dictionary? (PathItem.decode? depth) tree).map Dict.ofList) depth) paths }
    | _ => none

end

namespace Document

def parse? (text : String) : Option Document :=
  (Json.Tree.parse? text).bind (decode? Json.depthLimit)

/-- References are followed this many times. -/
def referenceLimit : Nat := 16

def target? (document : Document) (node : Node) : Option Node := do
  let name ← Text.afterPrefix? "#/components/schemas/" (← node.reference)
  document.schemas.get? name

/-- Follows references while they lead to a schema, up to a number of times. -/
def resolveWithin (document : Document) (node : Node) : Nat → Node
  | 0 => node
  | steps + 1 =>
    match document.target? node with
    | some next => document.resolveWithin next steps
    | none => node

def resolve (document : Document) (node : Node) : Node :=
  document.resolveWithin node referenceLimit

/-- The path that answers the requests of a type. -/
def endpointPath (service requestType : String) : String :=
  "/" ++ service ++ "/" ++ Naming.capitalize service ++ "/" ++
    Text.replaceAll requestSuffix "" requestType

/-- Of the paths that differ in letter case only, the last one counts. -/
def isStream (document : Document) (service requestType : String) : Except Error Bool :=
  let path := endpointPath service requestType
  match document.paths.entries.reverse.find? (Text.equalIgnoringCase ·.1 path) with
  | some (_, item) => .ok item.streams
  | none => .error (.endpointNotFound path)

def hasStream (document : Document) : Bool :=
  document.paths.values.any PathItem.streams

def endpointName? (requestType : String) : Option String :=
  (Text.beforeSuffix? requestSuffix requestType).filter (!·.isEmpty)

def endpoint (document : Document) (service requestType name : String) (node : Node) :
    Except Error Endpoint := do
  return {
    name, requestType
    responseType := name ++ responseSuffix
    streaming := ← document.isStream service requestType
    description := node.description }

/-- All endpoints by the names of their request types; a path missing for one fails. -/
def endpoints (document : Document) (service : String) : Except Error (List Endpoint) :=
  (document.schemas.entries.filterMap fun (requestType, node) =>
    (endpointName? requestType).map fun name => (requestType, name, node)).mapM
    fun (requestType, name, node) => document.endpoint service requestType name node

end Document

end Typesmith.OpenApi
