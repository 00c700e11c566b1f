import Typesmith.Config
import Typesmith.OpenApi.Document
import Typesmith.Proto.Descriptors

/-! # Services

The schema of one service: its API document says which types and fields there are, its descriptors
what the fields hold. All services of a run form the registry.
-/

namespace Typesmith

open OpenApi (Node Document)

structure Service where
  name : String
  document : Document
  descriptors : Proto.Descriptors
  /-- The full names of messages whose shape is only known at run time. -/
  dynamicTypes : List String
deriving Inhabited

namespace Service

/-- Dots at the front of a configured name have no meaning. -/
def dynamicNames (config : Config) : List String :=
  config.dynamicTypes.map fun name => .ofList (name.toList.dropWhile (· = '.'))

def readDocument (tree : FileTree) (path : String) : Except SourceFailure Document :=
  match tree.readText path with
  | .error cause => .error (.unreadable path cause)
  | .ok text =>
    match Document.parse? text with
    | some document => .ok document
    | none => .error (.malformed "malformed document")

/-- Reads both files of a service, the API document first. -/
def read (config : Config) (tree : FileTree) (name : String) : Except Error Service := do
  let document ← (readDocument tree (config.openApiPathFor name)).mapError (.openApiParse name)
  let descriptors ← (Proto.Descriptors.read tree name (config.protoPathFor name)).mapError
    (.protoParse name)
  return ⟨name, document, descriptors, dynamicNames config⟩

variable (service : Service)

def typeSchema (type : String) : Except Error Node :=
  match service.document.schemas.get? type with
  | some node => .ok (service.document.resolve node)
  | none => .error (.schemaNotFound (service.name ++ "." ++ type))

def fieldDescriptor (message field : String) : Except Error Proto.FieldDescriptor :=
  match service.descriptors.field? message field with
  | some descriptor => .ok descriptor
  | none => .error (.fieldNotFound service.name message field)

/-- Whether an enum has a value; an enum that is not declared has every value. -/
def isEnumValue (enum value : String) : Bool :=
  (service.descriptors.enum? enum).all (·.declares value)

def isDynamic (message : String) : Bool :=
  service.dynamicTypes.contains message

end Service

abbrev Registry := Dict Service

namespace Registry

def service (registry : Registry) (name : String) : Except Error Service :=
  match registry.get? name with
  | some service => .ok service
  | none => .error (.unknownService name)

/-- Reads a service anew; a failure leaves no trace. -/
def load (registry : Registry) (config : Config) (tree : FileTree) (name : String) :
    Except Error Registry := do
  return registry.insert name (← Service.read config tree name)

end Registry

end Typesmith
