import Typesmith.Report
import Typesmith.Service

/-! # Resolution

A field gets its tag from two sources. Its node says whether it is a scalar, a collection or an
object; of collections and objects the descriptor says what they hold.
-/

namespace Typesmith

open OpenApi (Node)

/-- The types of a service with their fields, by name. -/
structure ServiceSchema where
  name : String
  types : List (String × List Field)
deriving DecidableEq, Repr

namespace Service

variable (service : Service)

/-- The tag of one value of a kind. -/
def kindTag : Proto.Kind → Tag
  | .scalar type => .scalar type.kind
  | .enum name => .enum (Proto.shortName name)
  | .message name => if service.isDynamic name then .json else .message (Proto.shortName name)

/-- The tag of an object: a map, a message or an enum; a scalar says nothing about it. -/
def objectTag (descriptor : Proto.FieldDescriptor) : Tag :=
  match descriptor.mapEntry, descriptor.kind with
  | some (key, value), _ => .map (service.kindTag key) (service.kindTag value)
  | none, .scalar _ => .any
  | none, kind => service.kindTag kind

def location (message field : String) : String :=
  service.name ++ "." ++ message ++ "." ++ field

/-- The tag of a field whose node has no further references. -/
def nodeTag (message field : String) (node : Node) : Report Tag :=
  match node.kind with
  | some "string" => pure (.scalar .string)
  | some "boolean" => pure (.scalar .bool)
  | some "number" | some "integer" =>
    match node.format.bind ScalarKind.ofFormat? with
    | some kind => pure (.scalar kind)
    | none => do
      Report.warn (.unsupportedFormat (service.location message field) (node.format.getD ""))
      return .scalar .number
  | some "array" => do
    let descriptor ← service.fieldDescriptor message field
    return .array (service.kindTag descriptor.kind)
  | some "object" => do
    let descriptor ← service.fieldDescriptor message field
    return service.objectTag descriptor
  | other => do
    Report.warn (.unsupportedFormat (service.location message field) (other.getD ""))
    return .any

/-- A property of a message, given its node. -/
def resolveNode (message field : String) (declared : Node) (required : Bool) : Report Field := do
  let node := service.document.resolve declared
  let tag ← service.nodeTag message field node
  return {
    name := field
    tag
    description := declared.description.or node.description
    format := node.format
    required }

def resolve (type field : String) : Report Field := do
  let parent ← service.typeSchema type
  match parent.properties.get? field with
  | some node => service.resolveNode type field node (parent.isRequired field)
  | none => Report.fail (.fieldNotFound service.name type field)

def fields (type : String) : Report (List Field) := do
  let parent ← service.typeSchema type
  Report.forEach parent.properties.entries fun (name, node) =>
    service.resolveNode type name node (parent.isRequired name)

def schema : Report ServiceSchema := do
  let types ← Report.forEach service.document.schemas.keys fun type => do
    return (type, ← service.fields type)
  return ⟨service.name, types⟩

/-- The node with the properties of a nested message: an inline one, if it has any, or else that of
the type of the same name. -/
def messageNode (message : String) (inline : Option Node) : Except Error Node :=
  match inline.map service.document.resolve with
  | some node => if node.members.isEmpty then service.typeSchema message else .ok node
  | none => service.typeSchema message

end Service

end Typesmith
