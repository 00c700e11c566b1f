import Typesmith.Proto.Declaration

/-! # Building declarations -/

namespace Typesmith.Proto.WellKnown

def field (name : String) (number : Int) (type : FieldType) : FieldDecl :=
  { name, number, type }

def repeatedField (name : String) (number : Int) (type : FieldType) : FieldDecl :=
  { name, number, type, label := .repeated }

def known (name : String) : FieldType :=
  .named (".google.protobuf." ++ name)

def string : FieldType := .scalar .string
def bool : FieldType := .scalar .bool
def bytes : FieldType := .scalar .bytes
def double : FieldType := .scalar .double
def int32 : FieldType := .scalar .int32
def int64 : FieldType := .scalar .int64
def uint64 : FieldType := .scalar .uint64

def enumFrom (start : Int) (name : String) (values : List String) : EnumDecl where
  name := name
  values := values.zipIdx.map fun (value, index) => ⟨value, start + index, []⟩

def file (name : String) (messages : List MessageDecl) : FileDecl where
  name := name
  package := "google.protobuf"
  dialect := .proto3
  messages := messages

end Typesmith.Proto.WellKnown
