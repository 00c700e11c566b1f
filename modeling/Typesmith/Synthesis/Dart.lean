import Typesmith.Language
import Typesmith.Naming
import Typesmith.Synthesis.Json

/-! # Dart

Fields are nullable unless required; a message always is, and a dynamic value never. An annotation
carries the wire name where the identifier differs from it, and the converters of 64-bit integers.
-/

namespace Typesmith.Synthesis.Dart

open Json (Value)

def jsonStyle : JsonStyle where
  objectOpen := "\x7b"
  objectClose := "\x7d"
  arrayOpen := "["
  arrayClose := "]"
  null := "null"
  quote := Text.quoteSingle

def scalarType : ScalarKind → String
  | .string | .bytes => "String"
  | .bool => "bool"
  | .float | .double => "double"
  | .number => "num"
  | _ => "int"

def typeName : Tag → String
  | .scalar kind => scalarType kind
  | .array element => "List<" ++ typeName element ++ ">"
  | .map key value => "Map<" ++ typeName key ++ ", " ++ typeName value ++ ">"
  | .message name | .enum name => name
  | .json => "Map<String, dynamic>"
  | .any => "dynamic"

def fieldName (name : String) : String :=
  Naming.camelCase name

mutual

def render : Literal → String
  | .bool b => Value.boolText b
  | .number text => text
  | .string s => Text.quoteSingle s
  | .enum name value => name ++ "." ++ value
  | .list _ items => block "[" (renderItems items) "]"
  | .map _ _ entries => block "\x7b" (renderEntries entries) "\x7d"
  | .message name fields => block (name ++ "(") (renderFields fields) ")"
  | .json value => renderJson jsonStyle value

def renderItems : List Literal → List String
  | [] => []
  | item :: rest => render item :: renderItems rest

def renderEntries : List (Literal × Literal) → List String
  | [] => []
  | (key, value) :: rest => (render key ++ ": " ++ render value) :: renderEntries rest

def renderFields : List (String × Literal) → List String
  | [] => []
  | (name, value) :: rest => (fieldName name ++ ": " ++ render value) :: renderFields rest

end

def renderAttribute (name : String) (value : Literal) : String :=
  fieldName name ++ ": " ++ render value

def converters : String := "fromJson: int64FromString, toJson: int64ToString"

def keyArguments (field : Field) : List String :=
  (if fieldName field.name = field.name then [] else ["name: " ++ Text.quoteSingle field.name]) ++
    if field.encodesAsString then [converters] else []

def jsonKey (field : Field) : String :=
  match keyArguments field with
  | [] => ""
  | arguments => "@JsonKey(" ++ ", ".intercalate arguments ++ ")\n"

def nullableMark (field : Field) : String :=
  match field.tag with
  | .any => ""
  | .message _ => "?"
  | _ => if field.required then "" else "?"

def declare (field : Field) : String :=
  let comment := (field.description.map (Naming.commentLines Language.dart.commentMarker)).getD ""
  comment ++ jsonKey field ++ "final " ++ typeName field.tag ++ nullableMark field ++ " " ++
    fieldName field.name ++ ";"

end Typesmith.Synthesis.Dart
