import Typesmith.Proto.WellKnown.Build

/-! # Types and interfaces as data -/

namespace Typesmith.Proto.WellKnown

def dialectEnum : EnumDecl :=
  enumFrom 0 "Syntax" ["SYNTAX_PROTO2", "SYNTAX_PROTO3"]

def typeMessage : MessageDecl where
  name := "Type"
  fields := [field "name" 1 string, repeatedField "fields" 2 (known "Field"),
    repeatedField "oneofs" 3 string, repeatedField "options" 4 (known "Option"),
    field "source_context" 5 (known "SourceContext"), field "syntax" 6 (known "Syntax")]

def fieldMessage : MessageDecl where
  name := "Field"
  fields := [field "kind" 1 (known "Field.Kind"), field "cardinality" 2 (known "Field.Cardinality"),
    field "number" 3 int32, field "name" 4 string, field "type_url" 6 string,
    field "oneof_index" 7 int32, field "packed" 8 bool, repeatedField "options" 9 (known "Option"),
    field "json_name" 10 string, field "default_value" 11 string]
  enums := [
    enumFrom 0 "Kind" ["TYPE_UNKNOWN", "TYPE_DOUBLE", "TYPE_FLOAT", "TYPE_INT64", "TYPE_UINT64",
      "TYPE_INT32", "TYPE_FIXED64", "TYPE_FIXED32", "TYPE_BOOL", "TYPE_STRING", "TYPE_GROUP",
      "TYPE_MESSAGE", "TYPE_BYTES", "TYPE_UINT32", "TYPE_ENUM", "TYPE_SFIXED32", "TYPE_SFIXED64",
      "TYPE_SINT32", "TYPE_SINT64"],
    enumFrom 0 "Cardinality" ["CARDINALITY_UNKNOWN", "CARDINALITY_OPTIONAL",
      "CARDINALITY_REQUIRED", "CARDINALITY_REPEATED"]]

def enumMessage : MessageDecl where
  name := "Enum"
  fields := [field "name" 1 string, repeatedField "enumvalue" 2 (known "EnumValue"),
    repeatedField "options" 3 (known "Option"), field "source_context" 4 (known "SourceContext"),
    field "syntax" 5 (known "Syntax")]

def enumValueMessage : MessageDecl where
  name := "EnumValue"
  fields := [field "name" 1 string, field "number" 2 int32,
    repeatedField "options" 3 (known "Option")]

def optionMessage : MessageDecl where
  name := "Option"
  fields := [field "name" 1 string, field "value" 2 (known "Any")]

def typeFile : FileDecl :=
  { file "google/protobuf/type.proto"
      [typeMessage, fieldMessage, enumMessage, enumValueMessage, optionMessage] with
    imports := ["google/protobuf/any.proto", "google/protobuf/source_context.proto"]
    enums := [dialectEnum] }

def apiMessage : MessageDecl where
  name := "Api"
  fields := [field "name" 1 string, repeatedField "methods" 2 (known "Method"),
    repeatedField "options" 3 (known "Option"), field "version" 4 string,
    field "source_context" 5 (known "SourceContext"), repeatedField "mixins" 6 (known "Mixin"),
    field "syntax" 7 (known "Syntax")]

def methodMessage : MessageDecl where
  name := "Method"
  fields := [field "name" 1 string, field "request_type_url" 2 string,
    field "request_streaming" 3 bool, field "response_type_url" 4 string,
    field "response_streaming" 5 bool, repeatedField "options" 6 (known "Option"),
    field "syntax" 7 (known "Syntax")]

def mixinMessage : MessageDecl where
  name := "Mixin"
  fields := [field "name" 1 string, field "root" 2 string]

def apiFile : FileDecl :=
  { file "google/protobuf/api.proto" [apiMessage, methodMessage, mixinMessage] with
    imports := ["google/protobuf/source_context.proto", "google/protobuf/type.proto"] }

def versionMessage : MessageDecl where
  name := "Version"
  fields := [field "major" 1 int32, field "minor" 2 int32, field "patch" 3 int32,
    field "suffix" 4 string]

def generatorRequest : MessageDecl where
  name := "CodeGeneratorRequest"
  fields := [repeatedField "file_to_generate" 1 string, field "parameter" 2 string,
    repeatedField "proto_file" 15 (known "FileDescriptorProto"),
    field "compiler_version" 3 (known "compiler.Version")]

def generatorResponse : MessageDecl where
  name := "CodeGeneratorResponse"
  fields := [field "error" 1 string, field "supported_features" 2 uint64,
    repeatedField "file" 15 (known "compiler.CodeGeneratorResponse.File")]
  nested := [
    { name := "File"
      fields := [field "name" 1 string, field "insertion_point" 2 string,
        field "content" 15 string,
        field "generated_code_info" 16 (known "GeneratedCodeInfo")] }]
  enums := [enumFrom 0 "Feature" ["FEATURE_NONE", "FEATURE_PROTO3_OPTIONAL"]]

def pluginFile : FileDecl where
  name := "google/protobuf/compiler/plugin.proto"
  package := "google.protobuf.compiler"
  imports := ["google/protobuf/descriptor.proto"]
  messages := [versionMessage, generatorRequest, generatorResponse]

end Typesmith.Proto.WellKnown
