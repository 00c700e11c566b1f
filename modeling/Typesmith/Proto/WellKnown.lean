import Typesmith.Proto.WellKnown.Descriptor
import Typesmith.Proto.WellKnown.Reflection

/-! # Well-known files

The files that every source may import.
-/

namespace Typesmith.Proto.WellKnown

def anyFile : FileDecl :=
  file "google/protobuf/any.proto"
    [{ name := "Any", fields := [field "type_url" 1 string, field "value" 2 bytes] }]

def emptyFile : FileDecl :=
  file "google/protobuf/empty.proto" [{ name := "Empty" }]

def spanFields : List FieldDecl :=
  [field "seconds" 1 int64, field "nanos" 2 int32]

def durationFile : FileDecl :=
  file "google/protobuf/duration.proto" [{ name := "Duration", fields := spanFields }]

def timestampFile : FileDecl :=
  file "google/protobuf/timestamp.proto" [{ name := "Timestamp", fields := spanFields }]

def fieldMaskFile : FileDecl :=
  file "google/protobuf/field_mask.proto"
    [{ name := "FieldMask", fields := [repeatedField "paths" 1 string] }]

def sourceContextFile : FileDecl :=
  file "google/protobuf/source_context.proto"
    [{ name := "SourceContext", fields := [field "file_name" 1 string] }]

def structEntry : MessageDecl where
  name := "FieldsEntry"
  fields := [field "key" 1 string, field "value" 2 (known "Value")]
  isMapEntry := true

def valueFields : List FieldDecl :=
  [field "null_value" 1 (known "NullValue"), field "number_value" 2 double,
    field "string_value" 3 string, field "bool_value" 4 bool,
    field "struct_value" 5 (known "Struct"), field "list_value" 6 (known "ListValue")]

def structFile : FileDecl :=
  { file "google/protobuf/struct.proto"
      [{ name := "Struct"
         fields := [repeatedField "fields" 1 (known "Struct.FieldsEntry")]
         nested := [structEntry] },
        { name := "Value"
          fields := valueFields.map fun decl => { decl with oneof := some 0 }
          oneofs := [{ name := "kind" }] },
        { name := "ListValue", fields := [repeatedField "values" 1 (known "Value")] }] with
    enums := [enumFrom 0 "NullValue" ["NULL_VALUE"]] }

def wrapper (name : String) (type : Scalar) : MessageDecl where
  name := name
  fields := [field "value" 1 (.scalar type)]

def wrappersFile : FileDecl :=
  file "google/protobuf/wrappers.proto"
    [wrapper "DoubleValue" .double, wrapper "FloatValue" .float, wrapper "Int64Value" .int64,
      wrapper "UInt64Value" .uint64, wrapper "Int32Value" .int32, wrapper "UInt32Value" .uint32,
      wrapper "BoolValue" .bool, wrapper "StringValue" .string, wrapper "BytesValue" .bytes]

def files : List FileDecl :=
  [anyFile, apiFile, descriptorFile, durationFile, emptyFile, fieldMaskFile, pluginFile,
    sourceContextFile, structFile, timestampFile, typeFile, wrappersFile]

def file? (name : String) : Option FileDecl :=
  files.find? (·.name == name)

end Typesmith.Proto.WellKnown
