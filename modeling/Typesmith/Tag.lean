/-! # Tags

The classification of a field that every language renders from.
-/

namespace Typesmith

inductive ScalarKind where
  | string | bool | bytes | int32 | int64 | uint32 | uint64 | float | double
  /-- A number of no declared width. -/
  | number
deriving DecidableEq, Repr

namespace ScalarKind

def name : ScalarKind → String
  | string => "string"
  | bool => "bool"
  | bytes => "bytes"
  | int32 => "int32"
  | int64 => "int64"
  | uint32 => "uint32"
  | uint64 => "uint64"
  | float => "float"
  | double => "double"
  | number => "number"

/-- The kind that a number format declares. -/
def ofFormat? : String → Option ScalarKind
  | "int32" => some int32
  | "int64" => some int64
  | "uint32" => some uint32
  | "uint64" => some uint64
  | "float" => some float
  | "double" => some double
  | _ => none

def isInteger : ScalarKind → Bool
  | int32 | int64 | uint32 | uint64 => true
  | _ => false

def isNumeric : ScalarKind → Bool
  | float | double | number => true
  | kind => kind.isInteger

/-- The kinds that travel as strings. -/
def isWide : ScalarKind → Bool
  | int64 | uint64 => true
  | _ => false

def range? : ScalarKind → Option (Int × Int)
  | int32 => some (-0x80000000, 0x7fffffff)
  | int64 => some (-0x8000000000000000, 0x7fffffffffffffff)
  | uint32 => some (0, 0xffffffff)
  | uint64 => some (0, 0xffffffffffffffff)
  | _ => none

def holds (kind : ScalarKind) (value : Int) : Bool :=
  match kind.range? with
  | some (low, high) => low ≤ value && value ≤ high
  | none => false

end ScalarKind

inductive Tag where
  | scalar (kind : ScalarKind)
  | array (element : Tag)
  | map (key value : Tag)
  | message (name : String)
  | enum (name : String)
  /-- A structure whose shape is only known at run time. -/
  | json
  | any
deriving DecidableEq, Repr, Inhabited

namespace Tag

def display : Tag → String
  | scalar kind => kind.name
  | array element => "array<" ++ element.display ++ ">"
  | map key value => "map<" ++ key.display ++ ", " ++ value.display ++ ">"
  | message name => "message " ++ name
  | enum name => "enum " ++ name
  | json => "json"
  | any => "any"

def elements : Tag → List Tag
  | array element => [element]
  | map key value => [key, value]
  | _ => []

def messageName? : Tag → Option String
  | message name => some name
  | _ => none

end Tag

/-- A resolved field of a type. -/
structure Field where
  name : String
  tag : Tag
  description : Option String := none
  format : Option String := none
  required : Bool := false
deriving DecidableEq, Repr

/-- Whether the field travels as a string: its format is a 64-bit integer. -/
def Field.encodesAsString (field : Field) : Bool :=
  ((field.format.bind ScalarKind.ofFormat?).map ScalarKind.isWide).getD false

end Typesmith
