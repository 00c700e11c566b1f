import Typesmith.Language
import Typesmith.Naming
import Typesmith.Synthesis.Json

/-! # TypeScript

Fields are optional unless required. A line before a field says that it travels as a string.
-/

namespace Typesmith.Synthesis.TypeScript

open Json (Value)

def jsonStyle : JsonStyle where
  objectOpen := "\x7b"
  objectClose := "\x7d"
  arrayOpen := "["
  arrayClose := "]"
  null := "null"
  quote := Text.quoteDouble

def scalarType : ScalarKind → String
  | .string | .bytes => "string"
  | .bool => "boolean"
  | _ => "number"

def typeName : Tag → String
  | .scalar kind => scalarType kind
  | .array element => typeName element ++ "[]"
  | .map key value => "\x7b [key: " ++ typeName key ++ "]: " ++ typeName value ++ " \x7d"
  | .message name | .enum name => name
  | .json => "\x7b [key: string]: any \x7d"
  | .any => "any"

def fieldName (name : String) : String :=
  Naming.camelCase name

mutual

def render : Literal → String
  | .bool b => Value.boolText b
  | .number text => text
  | .string s => Text.quoteDouble s
  | .enum _ value => Text.quoteDouble value
  | .list _ items => block "[" (renderItems items) "]"
  | .map _ _ entries => block "\x7b" (renderEntries entries) "\x7d"
  | .message _ fields => block "\x7b" (renderFields fields) "\x7d"
  | .json value => renderJson jsonStyle value

def renderItems : List Literal → List String
  | [] => []
  | item :: rest => render item :: renderItems rest

def renderEntries : List (Literal × Literal) → List String
  | [] => []
  | (key, value) :: rest => (render key ++ ": " ++ render value) :: renderEntries rest

def renderFields : List (String × Literal) → List String
  | [] => []
  | (name, value) :: rest => (fieldName name ++ ": " ++ render value) :: renderFields rest

end

def renderAttribute (name : String) (value : Literal) : String :=
  fieldName name ++ ": " ++ render value

def stringEncoding : String := "// @encoding string\n"

def declare (field : Field) : String :=
  let comment :=
    (field.description.map (Naming.commentLines Language.typescript.commentMarker)).getD ""
  let encoding := if field.encodesAsString then stringEncoding else ""
  let optional := if field.required then "" else "?"
  comment ++ encoding ++ fieldName field.name ++ optional ++ ": " ++ typeName field.tag ++ ";"

end Typesmith.Synthesis.TypeScript
