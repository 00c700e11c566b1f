import Typesmith.Generator

/-! # Operations

What a generator can be asked about a service by its name. Only the recorded examples are read from
files; all else is a question about the schema.
-/

namespace Typesmith

inductive Operation where
  | typeSchema (type : String)
  | isEnumValue (enum value : String)
  | endpoints
  | resolve (type field : String)
  | resolveNode (message field : String) (declared : OpenApi.Node) (required : Bool)
  | fields (type : String)
  | schema
  | messageLiteral (type : String) (attributes : List (String × Json.Value))
  | render (target : Target) (type : String) (attributes : List (String × Json.Value))
  | declareType (target : Target) (type : String)
  | declareService (target : Target)
  | renderExamples (target : Target) (filter : Option String)

namespace Operation

abbrev Result : Operation → Type
  | typeSchema _ => OpenApi.Node
  | isEnumValue .. => Bool
  | endpoints => List OpenApi.Endpoint
  | resolve .. | resolveNode .. => Field
  | fields _ => List Field
  | schema => ServiceSchema
  | messageLiteral .. => Literal
  | render .. => Rendered
  | declareType .. => String
  | declareService _ => List (String × String)
  | renderExamples .. => List EndpointExample

/-- Whether an operation asks about the schema only. -/
def isSchemaQuery : Operation → Bool
  | renderExamples .. => false
  | _ => true

def run (tree : FileTree) (generator : Generator) (name : String) :
    (operation : Operation) → Report operation.Result
  | typeSchema type => do (← generator.service name).typeSchema type
  | isEnumValue enum value => do return (← generator.service name).isEnumValue enum value
  | endpoints => generator.endpoints name
  | resolve type field => do (← generator.service name).resolve type field
  | resolveNode message field declared required => do
    (← generator.service name).resolveNode message field declared required
  | fields type => do (← generator.service name).fields type
  | schema => do (← generator.service name).schema
  | messageLiteral type attributes => do
    (← generator.service name).messageLiteral type attributes
  | render target type attributes => do
    target.render (← generator.service name) type attributes
  | declareType target type => generator.declareType target name type
  | declareService target => generator.declareService target name
  | renderExamples target filter => generator.renderExamples tree target name filter

end Operation

end Typesmith
