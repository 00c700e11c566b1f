import Typesmith.Language
import Typesmith.Naming
import Typesmith.Synthesis.Json

/-! # Go

A message is a pointer as a field and a value as an item of a list or map. Bytes travel as text.
-/

namespace Typesmith.Synthesis.Go

open Json (Value)

def jsonStyle : JsonStyle where
  objectOpen := "map[string]interface\x7b\x7d\x7b"
  objectClose := "\x7d"
  arrayOpen := "[]interface\x7b\x7d\x7b"
  arrayClose := "\x7d"
  null := "nil"
  quote := Text.quoteDouble

def scalarType : ScalarKind → String
  | .string | .bytes => "string"
  | .bool => "bool"
  | .int32 => "int32"
  | .int64 => "int64"
  | .uint32 => "uint32"
  | .uint64 => "uint64"
  | .float => "float32"
  | .double | .number => "float64"

/-- The type of a tag, with the names of messages and enums as `qualify` writes them. -/
def typeExpr (qualify : String → String) : Tag → String
  | .scalar kind => scalarType kind
  | .array element => "[]" ++ typeExpr qualify element
  | .map key value => "map[" ++ typeExpr qualify key ++ "]" ++ typeExpr qualify value
  | .message name | .enum name => qualify name
  | .json => "map[string]interface\x7b\x7d"
  | .any => "interface\x7b\x7d"

def typeName (tag : Tag) : String :=
  typeExpr id tag

def qualifiedType (package : String) (tag : Tag) : String :=
  typeExpr (package ++ "." ++ ·) tag

def fieldName (name : String) : String :=
  Naming.pascalCase name

mutual

def render (package : String) (pointer : Bool) : Literal → String
  | .bool b => Value.boolText b
  | .number text => text
  | .string s => Text.quoteDouble s
  | .enum _ value => Text.quoteDouble value
  | .list element items =>
    block ("[]" ++ qualifiedType package element ++ "\x7b") (renderItems package items) "\x7d"
  | .map key value entries =>
    block ("map[" ++ qualifiedType package key ++ "]" ++ qualifiedType package value ++ "\x7b")
      (renderEntries package entries) "\x7d"
  | .message name fields =>
    block ((if pointer then "&" else "") ++ package ++ "." ++ name ++ "\x7b")
      (renderFields package fields) "\x7d"
  | .json value => renderJson jsonStyle value

def renderItems (package : String) : List Literal → List String
  | [] => []
  | item :: rest => render package false item :: renderItems package rest

def renderEntries (package : String) : List (Literal × Literal) → List String
  | [] => []
  | (key, value) :: rest =>
    (render package false key ++ ": " ++ render package false value) :: renderEntries package rest

def renderFields (package : String) : List (String × Literal) → List String
  | [] => []
  | (name, value) :: rest =>
    (fieldName name ++ ": " ++ render package true value) :: renderFields package rest

end

def renderAttribute (package name : String) (value : Literal) : String :=
  fieldName name ++ ": " ++ render package true value

def declaredType : Tag → String
  | .message name => "*" ++ name
  | tag => typeName tag

def declare (field : Field) : String :=
  let comment := (field.description.map (Naming.commentLines Language.go.commentMarker)).getD ""
  let options := if field.encodesAsString then "string,omitempty" else "omitempty"
  comment ++ fieldName field.name ++ " " ++ declaredType field.tag ++
    " \x60json:\"" ++ field.name ++ "," ++ options ++ "\"\x60"

end Typesmith.Synthesis.Go
