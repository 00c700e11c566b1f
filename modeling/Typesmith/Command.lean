import Typesmith.Generator

/-! # Commands

The text that each command prints.
-/

namespace Typesmith

namespace Generator

variable (generator : Generator)

/-- The requested languages, or else the configured ones. -/
def chosenLanguages (requested : List Language) : List Language :=
  if requested.isEmpty then generator.config.languages else requested

def heading (target : Target) (text : String) : String :=
  target.comment (text ++ " (" ++ target.language.name ++ ")")

def declarationText (target : Target) (name code : String) : String :=
  heading target name ++ (if code.isEmpty then "" else code ++ "\n") ++ "\n"

def declarations (target : Target) (service : String) (type : Option String) :
    Report (List (String × String)) :=
  match type with
  | some type => do
    return [(type, ← generator.declareType target service type)]
  | none => generator.declareService target service

/-- Prints declarations in every language. -/
def typesText (service : String) (type : Option String) (requested : List Language) :
    Report String := do
  let texts ← Report.forEach (generator.chosenLanguages requested) fun language => do
    let target : Target := ⟨language, service⟩
    let declarations ← generator.declarations target service type
    return String.join (declarations.map fun (name, code) => declarationText target name code)
  return .join texts

def exampleText (target : Target) (found : EndpointExample) : String :=
  heading target (found.endpoint ++ ": " ++ found.title) ++ found.rendered.literal ++ "\n\n"

/-- Prints the recorded examples in every language. -/
def examplesText (tree : FileTree) (service : String) (filter : Option String)
    (requested : List Language) : Report String := do
  let texts ← Report.forEach (generator.chosenLanguages requested) fun language => do
    let target : Target := ⟨language, service⟩
    let found ← generator.renderExamples tree target service filter
    return String.join (found.map (exampleText target))
  return .join texts

def endpointText (endpoint : OpenApi.Endpoint) : String :=
  "\t".intercalate [endpoint.name, endpoint.requestType, endpoint.responseType,
    if endpoint.streaming then "stream" else "unary"] ++ "\n"

/-- Prints a line for each endpoint. -/
def endpointsText (service : String) : Report String := do
  let found ← generator.endpoints service
  return .join (found.map endpointText)

/-- Walks the recorded examples of a service, and counts them. -/
def walkExamples (tree : FileTree) (service : String) : Report Nat := do
  let document ← generator.examples tree service
  let literals ← Report.forEach document.requests fun (endpoint, sample) => do
    let found ← generator.service service
    found.messageLiteral (Naming.requestType endpoint) sample.request
  return literals.length

def checkService (tree : FileTree) (service : String) : Report String := do
  let found ← generator.service service
  let schema ← found.schema
  let walked ← generator.walkExamples tree service
  return service ++ ": " ++ toString schema.types.length ++ " types, " ++ toString walked ++
    " examples\n"

/-- Resolves every type and walks every example of some services. -/
def checkText (tree : FileTree) (services : List String) : Report String := do
  return .join (← Report.forEach services (generator.checkService tree))

end Generator

end Typesmith
