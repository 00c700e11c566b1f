import Typesmith.Example
import Typesmith.Synthesis.Target
import Typesmith.Walk

/-! # Generators

What a language makes of an example, and a valid configuration with the services loaded under it,
with all that is generated from them.
-/

namespace Typesmith

/-- An example of a type in one language. -/
structure Rendered where
  typeName : String
  fragments : List String
  /-- The fragments as they stand inside the literal. -/
  body : String
  literal : String
deriving DecidableEq, Repr

namespace Target

def renderFragments (target : Target) (fields : List (String × Literal)) : List String :=
  fields.map fun (name, value) => target.renderAttribute name value

def render (target : Target) (service : Service) (type : String)
    (attributes : List (String × Json.Value)) : Report Rendered := do
  let fields ← service.exampleFields type attributes
  let fragments := target.renderFragments fields
  return {
    typeName := type
    fragments
    body := joinAttributes fragments
    literal := target.renderLiteral (.message type fields) }

end Target

structure Generator where
  config : Config
  registry : Registry
deriving Inhabited

/-- A recorded example of an endpoint, rendered. -/
structure EndpointExample where
  endpoint : String
  title : String
  description : String
  rendered : Rendered
deriving DecidableEq, Repr

namespace Generator

def ofConfig (config : Config) : Except Error Generator := do
  config.validate
  return ⟨config, .empty⟩

def load (generator : Generator) (tree : FileTree) (service : String) : Except Error Generator := do
  return { generator with
    registry := ← generator.registry.load generator.config tree service }

/-- Loads services in order, up to the first failure. -/
def loadAll (generator : Generator) (tree : FileTree) (services : List String) :
    Except Error Generator :=
  services.foldlM (fun generator service => generator.load tree service) generator

variable (generator : Generator)

def service (name : String) : Report Service :=
  generator.registry.service name

/-- The targets of the configured languages; the service is the package. -/
def targets (service : String) : List Target :=
  generator.config.languages.map (⟨·, service⟩)

def declareType (target : Target) (service type : String) : Report String := do
  let service ← generator.service service
  return target.declareFields (← service.fields type)

def declareService (target : Target) (service : String) : Report (List (String × String)) := do
  let service ← generator.service service
  let schema ← service.schema
  return schema.types.map fun (name, fields) => (name, target.declareFields fields)

def endpoints (service : String) : Except Error (List OpenApi.Endpoint) := do
  let found ← generator.registry.service service
  found.document.endpoints service

def examples (tree : FileTree) (service : String) : Except Error ExampleDocument :=
  ExampleDocument.read tree (generator.config.examplesPathFor service)

/-- Whether an endpoint passes a filter, whatever its letter case. -/
def selects (filter : Option String) (endpoint : String) : Bool :=
  filter.all (Text.equalIgnoringCase · endpoint)

def renderExample (target : Target) (service endpoint : String) (sample : Example) :
    Report EndpointExample := do
  let found ← generator.service service
  let rendered ← target.render found (Naming.requestType endpoint) sample.request
  return ⟨endpoint, sample.title, sample.description, rendered⟩

/-- The requests of the recorded examples of every endpoint that passes the filter. -/
def renderExamples (tree : FileTree) (target : Target) (service : String)
    (filter : Option String) : Report (List EndpointExample) := do
  let document ← generator.examples tree service
  Report.forEach (document.requests.filter fun (endpoint, _) => selects filter endpoint)
    fun (endpoint, sample) => generator.renderExample target service endpoint sample

end Generator

def Target.endpointComment (target : Target) (endpoint : OpenApi.Endpoint) : String :=
  (endpoint.description.map target.comment).getD ""

end Typesmith
