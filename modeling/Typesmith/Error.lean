/-! # Failures

Causes of a failed run, their wording, and their exit codes.
-/

namespace Typesmith

inductive FileError where
  | notFound
  | isDirectory
  | notADirectory
  | nameTooLong
  | notUtf8
  | other (detail : String)
deriving DecidableEq, Repr

def FileError.message : FileError → String
  | notFound => "No such file or directory (os error 2)"
  | isDirectory => "Is a directory (os error 21)"
  | notADirectory => "Not a directory (os error 20)"
  | nameTooLong => "File name too long (os error 36)"
  | notUtf8 => "stream did not contain valid UTF-8"
  | other detail => detail

/-- Why a schema file gave no schema. -/
inductive SourceFailure where
  | unreadable (path : String) (cause : FileError)
  | missing (path : String)
  | malformed (detail : String)
deriving DecidableEq, Repr

def SourceFailure.message : SourceFailure → String
  | unreadable path cause => path ++ ": " ++ cause.message
  | missing path => "file not found: " ++ path
  | malformed detail => detail

inductive ConfigFailure where
  | malformed (detail : String)
  | emptyTemplate (key : String)
  | noPlaceholder (key template : String)
  | noLanguage
  | logLevel (level : String)
  | unknownLanguage (name : String)
deriving DecidableEq, Repr

def ConfigFailure.message : ConfigFailure → String
  | malformed detail => detail
  | emptyTemplate key => key ++ " cannot be empty"
  | noPlaceholder key template => key ++ " must contain \x7bservice\x7d: " ++ template
  | noLanguage => "at least one language is required"
  | logLevel level => "invalid log level: " ++ level
  | unknownLanguage name => "unknown language: " ++ name

inductive Error where
  | schemaNotFound (name : String)
  | fieldNotFound (service message field : String)
  | protoParse (service : String) (cause : SourceFailure)
  | openApiParse (service : String) (cause : SourceFailure)
  | endpointNotFound (path : String)
  | unknownService (service : String)
  | config (cause : ConfigFailure)
  | io (cause : FileError)
  | json (detail : String)
deriving DecidableEq, Repr

namespace Error

def message : Error → String
  | schemaNotFound name => "schema not found: " ++ name
  | fieldNotFound service message field =>
    "field not found: " ++ service ++ "." ++ message ++ "." ++ field
  | protoParse service cause =>
    "failed to parse protobuf for service " ++ service ++ ": " ++ cause.message
  | openApiParse service cause =>
    "failed to parse OpenAPI document for service " ++ service ++ ": " ++ cause.message
  | endpointNotFound path => "endpoint not found: " ++ path
  | unknownService service => "unknown service: " ++ service
  | config cause => "configuration error: " ++ cause.message
  | io cause => "I/O error: " ++ cause.message
  | json detail => "JSON error: " ++ detail

/-- The exit status of a run that ends with the failure. -/
def code : Error → Nat
  | schemaNotFound _ => 3
  | fieldNotFound .. => 4
  | protoParse .. => 5
  | openApiParse .. => 6
  | endpointNotFound _ => 7
  | unknownService _ => 8
  | config _ => 9
  | io _ => 10
  | json _ => 11

end Error

end Typesmith
