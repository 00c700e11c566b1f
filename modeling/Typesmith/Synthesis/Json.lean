import Typesmith.Json.Value
import Typesmith.Literal

/-! # Raw JSON in a target language -/

namespace Typesmith.Synthesis

/-- How a language writes the values of JSON. -/
structure JsonStyle where
  objectOpen : String
  objectClose : String
  arrayOpen : String
  arrayClose : String
  null : String
  quote : String → String

open Json (Value)

mutual

def renderJson (style : JsonStyle) : Value → String
  | .null => style.null
  | .bool b => Value.boolText b
  | .number n => n.text
  | .string s => style.quote s
  | .array items => block style.arrayOpen (renderJsonItems style items) style.arrayClose
  | .object members =>
    block style.objectOpen
      ((byName (renderJsonMembers style members)).map fun (name, text) =>
        style.quote name ++ ": " ++ text)
      style.objectClose

def renderJsonItems (style : JsonStyle) : List Value → List String
  | [] => []
  | item :: rest => renderJson style item :: renderJsonItems style rest

def renderJsonMembers (style : JsonStyle) : List (String × Value) → List (String × String)
  | [] => []
  | (name, value) :: rest => (name, renderJson style value) :: renderJsonMembers style rest

end

end Typesmith.Synthesis
