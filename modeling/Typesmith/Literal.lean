import Typesmith.Json.Value
import Typesmith.Tag

/-! # Literals

The language-neutral form of an example value, and the layout of its rendering.
-/

namespace Typesmith

inductive Literal where
  | bool (value : Bool)
  | number (text : String)
  | string (value : String)
  | enum (name value : String)
  | list (element : Tag) (items : List Literal)
  | message (name : String) (fields : List (String × Literal))
  | map (key value : Tag) (entries : List (Literal × Literal))
  /-- A structure that is only known at run time. -/
  | json (value : Json.Value)
deriving Repr

/-- `opening`, then one item per line, each with a comma, then `closing`. -/
def block (opening : String) (items : List String) (closing : String) : String :=
  match items with
  | [] => opening ++ closing
  | _ => opening ++ "\n" ++ .join (items.map (· ++ ",\n")) ++ closing

/-- The items of a block without its delimiters. -/
def joinAttributes (fragments : List String) : String :=
  "\n".intercalate (fragments.map (· ++ ","))

end Typesmith
