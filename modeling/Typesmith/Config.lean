import Typesmith.FileTree
import Typesmith.Language
import Typesmith.Text.Replace
import Typesmith.Toml.Document

/-! # Configuration

Where the files of a service are, and what a run generates when nothing else is asked for.
-/

namespace Typesmith

def servicePlaceholder : String := "\x7bservice\x7d"

/-- Templates are relative to `servicesDir`. -/
structure Config where
  servicesDir : String := "."
  protoPath : String := "\x7bservice\x7d/proto/\x7bservice\x7d.proto"
  openApiPath : String := "\x7bservice\x7d/api-\x7bservice\x7d.json"
  examplesPath : String := "\x7bservice\x7d/examples.json"
  languages : List Language := Language.all
  /-- Messages whose shape is only known at run time, by full name. -/
  dynamicTypes : List String := ["google.protobuf.Struct"]
  logLevel : String := "info"
deriving DecidableEq, Repr, Inhabited

namespace Config

def text? : Toml.Value → Option String
  | .string s => some s
  | _ => none

/-- A language is named by a string, or by the one key of a table that holds nothing. -/
def language? : Toml.Value → Option Language
  | .string s => Language.ofSpelling? s
  | .table [(name, .table [])] | .table [(name, .array [])] => Language.ofSpelling? name
  | _ => none

def list? {α : Type} (decode : Toml.Value → Option α) : Toml.Value → Option (List α)
  | .array items => items.mapM decode
  | _ => none

def entry? {α : Type} (table : Toml.Table) (key : String) (default : α)
    (decode : Toml.Value → Option α) : Option α :=
  match table.lookup key with
  | none => some default
  | some value => decode value

def ofTable? (table : Toml.Table) : Option Config := do
  let base : Config := {}
  return {
    servicesDir := ← entry? table "services_dir" base.servicesDir text?
    protoPath := ← entry? table "proto_path" base.protoPath text?
    openApiPath := ← entry? table "openapi_path" base.openApiPath text?
    examplesPath := ← entry? table "examples_path" base.examplesPath text?
    languages := ← entry? table "languages" base.languages (list? language?)
    dynamicTypes := ← entry? table "dynamic_struct_types" base.dynamicTypes (list? text?)
    logLevel := ← entry? table "log_level" base.logLevel text? }

def parse (text : String) : Except Error Config :=
  match (Toml.parse? text).bind ofTable? with
  | some config => .ok config
  | none => .error (.config (.malformed "malformed configuration"))

def read (tree : FileTree) (path : String) : Except Error Config :=
  match tree.readText path with
  | .ok text => parse text
  | .error cause => .error (.io cause)

def checkTemplate (key template : String) : Except ConfigFailure Unit :=
  if template.isEmpty then .error (.emptyTemplate key)
  else if !Text.occursIn servicePlaceholder template then .error (.noPlaceholder key template)
  else .ok ()

def logLevels : List String := ["trace", "debug", "info", "warn", "error"]

def check (config : Config) : Except ConfigFailure Unit := do
  checkTemplate "proto_path" config.protoPath
  checkTemplate "openapi_path" config.openApiPath
  checkTemplate "examples_path" config.examplesPath
  if config.languages.isEmpty then .error .noLanguage
  else if !logLevels.contains (Text.asciiLower config.logLevel) then
    .error (.logLevel config.logLevel)
  else .ok ()

def validate (config : Config) : Except Error Unit :=
  config.check.mapError .config

def expand (config : Config) (template service : String) : String :=
  Path.join config.servicesDir (Text.replaceAll servicePlaceholder service template)

def protoPathFor (config : Config) (service : String) : String :=
  config.expand config.protoPath service

def openApiPathFor (config : Config) (service : String) : String :=
  config.expand config.openApiPath service

def examplesPathFor (config : Config) (service : String) : String :=
  config.expand config.examplesPath service

/-- Whether a configuration says what the default says. -/
def isDefault (config : Config) : Bool :=
  let base : Config := {}
  Path.same config.servicesDir base.servicesDir &&
    { config with servicesDir := base.servicesDir } == base

end Config

end Typesmith
