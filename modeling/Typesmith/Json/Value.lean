import Typesmith.Dict
import Typesmith.Json.Number
import Typesmith.Text.Quoted

/-! # JSON values

An object stands for the dictionary of its members: their order is of no account, and of several
members of one name the last counts.
-/

namespace Typesmith.Json

inductive Value where
  | null
  | bool (value : Bool)
  | number (value : Number)
  | string (value : String)
  | array (items : List Value)
  | object (members : List (String × Value))
deriving Repr, Inhabited

namespace Value

def kindName : Value → String
  | null => "null"
  | bool _ => "boolean"
  | number _ => "number"
  | string _ => "string"
  | array _ => "array"
  | object _ => "object"

def isNumber : Value → Bool
  | number _ => true
  | _ => false

def boolText (b : Bool) : String :=
  if b then "true" else "false"

mutual

/-- The text of a value without white space, members by name. -/
def compact : Value → String
  | null => "null"
  | bool b => boolText b
  | number n => n.text
  | string s => Text.quoteDouble s
  | array items => "[" ++ ",".intercalate (compactItems items) ++ "]"
  | object members =>
    "\x7b" ++ ",".intercalate ((byName (compactMembers members)).map fun (name, text) =>
      Text.quoteDouble name ++ ":" ++ text) ++ "\x7d"

def compactItems : List Value → List String
  | [] => []
  | item :: rest => item.compact :: compactItems rest

def compactMembers : List (String × Value) → List (String × String)
  | [] => []
  | (name, value) :: rest => (name, value.compact) :: compactMembers rest

end

end Value

end Typesmith.Json
