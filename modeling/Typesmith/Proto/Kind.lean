import Typesmith.Tag

/-! # Kinds of protobuf values -/

namespace Typesmith.Proto

inductive Scalar where
  | double | float | int32 | int64 | uint32 | uint64 | sint32 | sint64
  | fixed32 | fixed64 | sfixed32 | sfixed64 | bool | string | bytes
deriving DecidableEq, Repr

namespace Scalar

def all : List Scalar :=
  [double, float, int32, int64, uint32, uint64, sint32, sint64, fixed32, fixed64, sfixed32,
    sfixed64, bool, string, bytes]

def name : Scalar → String
  | double => "double"
  | float => "float"
  | int32 => "int32"
  | int64 => "int64"
  | uint32 => "uint32"
  | uint64 => "uint64"
  | sint32 => "sint32"
  | sint64 => "sint64"
  | fixed32 => "fixed32"
  | fixed64 => "fixed64"
  | sfixed32 => "sfixed32"
  | sfixed64 => "sfixed64"
  | bool => "bool"
  | string => "string"
  | bytes => "bytes"

def ofName? (name : String) : Option Scalar :=
  all.find? (·.name == name)

def kind : Scalar → ScalarKind
  | double => .double
  | float => .float
  | int32 | sint32 | sfixed32 => .int32
  | int64 | sint64 | sfixed64 => .int64
  | uint32 | fixed32 => .uint32
  | uint64 | fixed64 => .uint64
  | bool => .bool
  | string => .string
  | bytes => .bytes

/-- Keys of maps are integers, truth values or strings. -/
def isMapKey (scalar : Scalar) : Bool :=
  scalar.kind.isInteger || scalar = bool || scalar = string

end Scalar

/-- The kind of a field; messages and enums are given by their full names. -/
inductive Kind where
  | scalar (type : Scalar)
  | message (fullName : String)
  | enum (fullName : String)
deriving DecidableEq, Repr

/-- The part of a full name after its last dot. -/
def shortName (fullName : String) : String :=
  .ofList (fullName.toList.reverse.takeWhile (· ≠ '.')).reverse

def qualify (scope name : String) : String :=
  if scope.isEmpty then name else scope ++ "." ++ name

end Typesmith.Proto
