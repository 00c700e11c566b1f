import Typesmith.Operation

/-! # Operations on a collector

The operations of a generator with the collector of warnings handed through their steps. A step sees
what was recorded before it, and a failure leaves what was recorded up to then.
-/

namespace Typesmith

/-- An operation that takes a collector and gives it back, whether it fails or not. -/
abbrev Recorder := ExceptT Error (StateM Diagnostics)

namespace Recorder

open Json (Value)
open OpenApi (Node)

variable {α β : Type}

/-- What an operation gives, and what it leaves in the collector. -/
def on (recorder : Recorder α) (diagnostics : Diagnostics) : Except Error α × Diagnostics :=
  StateT.run (ExceptT.run recorder) diagnostics

def warn (warning : Warning) : Recorder Unit :=
  modify (· ++ [warning])

def collect : List (String × Recorder (Option α)) → Recorder (List α)
  | [] => return []
  | (_, recorder) :: rest => do
    let found ← recorder
    let others ← collect rest
    return found.toList ++ others

variable (service : Service)

def nodeTag (message field : String) (node : Node) : Recorder Tag :=
  match node.kind with
  | some "string" => return .scalar .string
  | some "boolean" => return .scalar .bool
  | some "number" | some "integer" =>
    match node.format.bind ScalarKind.ofFormat? with
    | some kind => return .scalar kind
    | none => do
      warn (.unsupportedFormat (service.location message field) (node.format.getD ""))
      return .scalar .number
  | some "array" => do
    let descriptor ← service.fieldDescriptor message field
    return .array (service.kindTag descriptor.kind)
  | some "object" => do
    let descriptor ← service.fieldDescriptor message field
    return service.objectTag descriptor
  | other => do
    warn (.unsupportedFormat (service.location message field) (other.getD ""))
    return .any

def resolveNode (message field : String) (declared : Node) (required : Bool) : Recorder Field := do
  let node := service.document.resolve declared
  let tag ← nodeTag service message field node
  return {
    name := field
    tag
    description := declared.description.or node.description
    format := node.format
    required }

def resolve (type field : String) : Recorder Field := do
  let parent ← service.typeSchema type
  match parent.properties.get? field with
  | some node => resolveNode service type field node (parent.isRequired field)
  | none => throw (.fieldNotFound service.name type field)

def fields (type : String) : Recorder (List Field) := do
  let parent ← service.typeSchema type
  parent.properties.entries.mapM fun (name, node) =>
    resolveNode service type name node (parent.isRequired name)

def schema : Recorder ServiceSchema := do
  let types ← service.document.schemas.keys.mapM fun type => do
    return (type, ← fields service type)
  return ⟨service.name, types⟩

def mismatch (tag : Tag) (location : String) (value : Value) : Recorder (Option Literal) := do
  warn (.mismatch location tag.display value.kindName)
  return none

def walkLeaf (tag : Tag) (location : String) (value : Value) : Recorder (Option Literal) :=
  match service.leaf? tag value with
  | some literal => return some literal
  | none => mismatch tag location value

mutual

def walk (tag : Tag) (node : Option Node) (location : String) :
    Value → Recorder (Option Literal)
  | .array items =>
    match tag with
    | .array element => do
      let itemNode := node.bind fun node => (service.document.resolve node).items
      return some (.list element (← walkItems element itemNode location 0 items))
    | .any => return some (.json (.array items))
    | _ => mismatch tag location (.array items)
  | .object members =>
    match tag with
    | .map key value => do
      let entries ← collect (byName (walkEntries key value location members))
      return some (.map key value entries)
    | .message name => do
      let inner ← service.messageNode name node
      let fields ← collect (byName (walkMembers name inner location members))
      return some (.message name fields)
    | .json | .any => return some (.json (.object members))
    | _ => mismatch tag location (.object members)
  | value => walkLeaf service tag location value

def walkItems (element : Tag) (node : Option Node) (location : String) (index : Nat) :
    List Value → Recorder (List Literal)
  | [] => return []
  | item :: rest => do
    let first ← walk element node (location ++ "[" ++ toString index ++ "]") item
    let others ← walkItems element node location (index + 1) rest
    return first.toList ++ others

def walkEntries (key value : Tag) (location : String) :
    List (String × Value) → List (String × Recorder (Option (Literal × Literal)))
  | [] => []
  | (name, entry) :: rest =>
    let inner := location ++ "." ++ name
    let recorder : Recorder (Option (Literal × Literal)) := do
      match ← walkLeaf service key inner (mapKey key name) with
      | none => return none
      | some keyLiteral => return (← walk value none inner entry).map (keyLiteral, ·)
    (name, recorder) :: walkEntries key value location rest

def walkMembers (message : String) (node : Node) (location : String) :
    List (String × Value) → List (String × Recorder (Option (String × Literal)))
  | [] => []
  | (name, value) :: rest =>
    let recorder : Recorder (Option (String × Literal)) :=
      match node.properties.get? name with
      | none => return none
      | some property => do
        let field ← resolveNode service message name property (node.isRequired name)
        return (← walk field.tag (some property) (location ++ "." ++ name) value).map (name, ·)
    (name, recorder) :: walkMembers message node location rest

end

def exampleFields (type : String) (attributes : List (String × Value)) :
    Recorder (List (String × Literal)) := do
  let node ← service.typeSchema type
  collect (byName (walkMembers service type node type attributes))

def messageLiteral (type : String) (attributes : List (String × Value)) : Recorder Literal := do
  return .message type (← exampleFields service type attributes)

def render (target : Target) (type : String) (attributes : List (String × Value)) :
    Recorder Rendered := do
  let fields ← exampleFields service type attributes
  let fragments := target.renderFragments fields
  return {
    typeName := type
    fragments
    body := joinAttributes fragments
    literal := target.renderLiteral (.message type fields) }

variable (generator : Generator)

def renderExample (target : Target) (name endpoint : String) (sample : Example) :
    Recorder EndpointExample := do
  let service ← generator.registry.service name
  let rendered ← render service target (Naming.requestType endpoint) sample.request
  return ⟨endpoint, sample.title, sample.description, rendered⟩

def renderExamples (tree : FileTree) (target : Target) (name : String) (filter : Option String) :
    Recorder (List EndpointExample) := do
  let document ← generator.examples tree name
  (document.requests.filter fun (endpoint, _) => Generator.selects filter endpoint).mapM
    fun (endpoint, sample) => renderExample generator target name endpoint sample

def declareType (target : Target) (name type : String) : Recorder String := do
  let service ← generator.registry.service name
  return target.declareFields (← fields service type)

def declareService (target : Target) (name : String) : Recorder (List (String × String)) := do
  let service ← generator.registry.service name
  let schema ← schema service
  return schema.types.map fun (name, fields) => (name, target.declareFields fields)

end Recorder

/-- An operation on a collector. -/
def Operation.record (tree : FileTree) (generator : Generator) (name : String) :
    (operation : Operation) → Recorder operation.Result
  | typeSchema type => do (← generator.registry.service name).typeSchema type
  | isEnumValue enum value => do return (← generator.registry.service name).isEnumValue enum value
  | endpoints => generator.endpoints name
  | resolve type field => do Recorder.resolve (← generator.registry.service name) type field
  | resolveNode message field declared required => do
    Recorder.resolveNode (← generator.registry.service name) message field declared required
  | fields type => do Recorder.fields (← generator.registry.service name) type
  | schema => do Recorder.schema (← generator.registry.service name)
  | messageLiteral type attributes => do
    Recorder.messageLiteral (← generator.registry.service name) type attributes
  | render target type attributes => do
    Recorder.render (← generator.registry.service name) target type attributes
  | declareType target type => Recorder.declareType generator target name type
  | declareService target => Recorder.declareService generator target name
  | renderExamples target filter => Recorder.renderExamples generator tree target name filter

end Typesmith
