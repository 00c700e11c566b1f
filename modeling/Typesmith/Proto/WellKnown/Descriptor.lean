import Typesmith.Proto.WellKnown.Build

/-! # The description of protobuf files

The messages that describe files themselves, among them the options of every kind of declaration.
-/

namespace Typesmith.Proto.WellKnown

def fileDescriptorSet : MessageDecl where
  name := "FileDescriptorSet"
  fields := [repeatedField "file" 1 (known "FileDescriptorProto")]

def fileDescriptor : MessageDecl where
  name := "FileDescriptorProto"
  fields := [field "name" 1 string, field "package" 2 string, repeatedField "dependency" 3 string,
    repeatedField "public_dependency" 10 int32, repeatedField "weak_dependency" 11 int32,
    repeatedField "message_type" 4 (known "DescriptorProto"),
    repeatedField "enum_type" 5 (known "EnumDescriptorProto"),
    repeatedField "service" 6 (known "ServiceDescriptorProto"),
    repeatedField "extension" 7 (known "FieldDescriptorProto"),
    field "options" 8 (known "FileOptions"),
    field "source_code_info" 9 (known "SourceCodeInfo"), field "syntax" 12 string]

def rangeFields : List FieldDecl :=
  [field "start" 1 int32, field "end" 2 int32]

def messageDescriptor : MessageDecl where
  name := "DescriptorProto"
  fields := [field "name" 1 string, repeatedField "field" 2 (known "FieldDescriptorProto"),
    repeatedField "extension" 6 (known "FieldDescriptorProto"),
    repeatedField "nested_type" 3 (known "DescriptorProto"),
    repeatedField "enum_type" 4 (known "EnumDescriptorProto"),
    repeatedField "extension_range" 5 (known "DescriptorProto.ExtensionRange"),
    repeatedField "oneof_decl" 8 (known "OneofDescriptorProto"),
    field "options" 7 (known "MessageOptions"),
    repeatedField "reserved_range" 9 (known "DescriptorProto.ReservedRange"),
    repeatedField "reserved_name" 10 string]
  nested := [
    { name := "ExtensionRange"
      fields := rangeFields ++ [field "options" 3 (known "ExtensionRangeOptions")] },
    { name := "ReservedRange", fields := rangeFields }]

def fieldDescriptor : MessageDecl where
  name := "FieldDescriptorProto"
  fields := [field "name" 1 string, field "number" 3 int32,
    field "label" 4 (known "FieldDescriptorProto.Label"),
    field "type" 5 (known "FieldDescriptorProto.Type"), field "type_name" 6 string,
    field "extendee" 2 string, field "default_value" 7 string, field "oneof_index" 9 int32,
    field "json_name" 10 string, field "options" 8 (known "FieldOptions"),
    field "proto3_optional" 17 bool]
  enums := [
    enumFrom 1 "Type" ["TYPE_DOUBLE", "TYPE_FLOAT", "TYPE_INT64", "TYPE_UINT64", "TYPE_INT32",
      "TYPE_FIXED64", "TYPE_FIXED32", "TYPE_BOOL", "TYPE_STRING", "TYPE_GROUP", "TYPE_MESSAGE",
      "TYPE_BYTES", "TYPE_UINT32", "TYPE_ENUM", "TYPE_SFIXED32", "TYPE_SFIXED64", "TYPE_SINT32",
      "TYPE_SINT64"],
    enumFrom 1 "Label" ["LABEL_OPTIONAL", "LABEL_REQUIRED", "LABEL_REPEATED"]]

def oneofDescriptor : MessageDecl where
  name := "OneofDescriptorProto"
  fields := [field "name" 1 string, field "options" 2 (known "OneofOptions")]

def enumDescriptor : MessageDecl where
  name := "EnumDescriptorProto"
  fields := [field "name" 1 string, repeatedField "value" 2 (known "EnumValueDescriptorProto"),
    field "options" 3 (known "EnumOptions"),
    repeatedField "reserved_range" 4 (known "EnumDescriptorProto.EnumReservedRange"),
    repeatedField "reserved_name" 5 string]
  nested := [{ name := "EnumReservedRange", fields := rangeFields }]

def enumValueDescriptor : MessageDecl where
  name := "EnumValueDescriptorProto"
  fields := [field "name" 1 string, field "number" 2 int32,
    field "options" 3 (known "EnumValueOptions")]

def serviceDescriptor : MessageDecl where
  name := "ServiceDescriptorProto"
  fields := [field "name" 1 string, repeatedField "method" 2 (known "MethodDescriptorProto"),
    field "options" 3 (known "ServiceOptions")]

def methodDescriptor : MessageDecl where
  name := "MethodDescriptorProto"
  fields := [field "name" 1 string, field "input_type" 2 string, field "output_type" 3 string,
    field "options" 4 (known "MethodOptions"), field "client_streaming" 5 bool,
    field "server_streaming" 6 bool]

def optionsOf (name : String) (fields : List FieldDecl) (enums : List EnumDecl)
    (reserved : List NumberRange) : MessageDecl where
  name := name
  fields := fields ++ [repeatedField "uninterpreted_option" 999 (known "UninterpretedOption")]
  enums := enums
  extensionRanges := [⟨1000, 536870911⟩]
  reserved := reserved

def fileOptions : MessageDecl :=
  optionsOf "FileOptions"
    [field "java_package" 1 string, field "java_outer_classname" 8 string,
      field "java_multiple_files" 10 bool, field "java_generate_equals_and_hash" 20 bool,
      field "java_string_check_utf8" 27 bool,
      field "optimize_for" 9 (known "FileOptions.OptimizeMode"), field "go_package" 11 string,
      field "cc_generic_services" 16 bool, field "java_generic_services" 17 bool,
      field "py_generic_services" 18 bool, field "php_generic_services" 42 bool,
      field "deprecated" 23 bool, field "cc_enable_arenas" 31 bool,
      field "objc_class_prefix" 36 string, field "csharp_namespace" 37 string,
      field "swift_prefix" 39 string, field "php_class_prefix" 40 string,
      field "php_namespace" 41 string, field "php_metadata_namespace" 44 string,
      field "ruby_package" 45 string]
    [enumFrom 1 "OptimizeMode" ["SPEED", "CODE_SIZE", "LITE_RUNTIME"]] [⟨38, 38⟩]

def messageOptions : MessageDecl :=
  optionsOf "MessageOptions"
    [field "message_set_wire_format" 1 bool, field "no_standard_descriptor_accessor" 2 bool,
      field "deprecated" 3 bool, field "map_entry" 7 bool] [] [⟨4, 6⟩, ⟨8, 9⟩]

def fieldOptions : MessageDecl :=
  optionsOf "FieldOptions"
    [field "ctype" 1 (known "FieldOptions.CType"), field "packed" 2 bool,
      field "jstype" 6 (known "FieldOptions.JSType"), field "lazy" 5 bool,
      field "unverified_lazy" 15 bool, field "deprecated" 3 bool, field "weak" 10 bool]
    [enumFrom 0 "CType" ["STRING", "CORD", "STRING_PIECE"],
      enumFrom 0 "JSType" ["JS_NORMAL", "JS_STRING", "JS_NUMBER"]] [⟨4, 4⟩]

def oneofOptions : MessageDecl :=
  optionsOf "OneofOptions" [] [] []

def enumOptions : MessageDecl :=
  optionsOf "EnumOptions" [field "allow_alias" 2 bool, field "deprecated" 3 bool] [] [⟨5, 5⟩]

def enumValueOptions : MessageDecl :=
  optionsOf "EnumValueOptions" [field "deprecated" 1 bool] [] []

def serviceOptions : MessageDecl :=
  optionsOf "ServiceOptions" [field "deprecated" 33 bool] [] []

def methodOptions : MessageDecl :=
  optionsOf "MethodOptions"
    [field "deprecated" 33 bool, field "idempotency_level" 34 (known "MethodOptions.IdempotencyLevel")]
    [enumFrom 0 "IdempotencyLevel" ["IDEMPOTENCY_UNKNOWN", "NO_SIDE_EFFECTS", "IDEMPOTENT"]] []

def uninterpretedOption : MessageDecl where
  name := "UninterpretedOption"
  fields := [repeatedField "name" 2 (known "UninterpretedOption.NamePart"),
    field "identifier_value" 3 string, field "positive_int_value" 4 uint64,
    field "negative_int_value" 5 int64, field "double_value" 6 double,
    field "string_value" 7 bytes, field "aggregate_value" 8 string]
  nested := [
    { name := "NamePart"
      fields := [
        { name := "name_part", number := 1, type := string, label := .required },
        { name := "is_extension", number := 2, type := bool, label := .required }] }]

def sourceCodeInfo : MessageDecl where
  name := "SourceCodeInfo"
  fields := [repeatedField "location" 1 (known "SourceCodeInfo.Location")]
  nested := [
    { name := "Location"
      fields := [repeatedField "path" 1 int32, repeatedField "span" 2 int32,
        field "leading_comments" 3 string, field "trailing_comments" 4 string,
        repeatedField "leading_detached_comments" 6 string] }]

def generatedCodeInfo : MessageDecl where
  name := "GeneratedCodeInfo"
  fields := [repeatedField "annotation" 1 (known "GeneratedCodeInfo.Annotation")]
  nested := [
    { name := "Annotation"
      fields := [repeatedField "path" 1 int32, field "source_file" 2 string,
        field "begin" 3 int32, field "end" 4 int32] }]

def descriptorFile : FileDecl :=
  { file "google/protobuf/descriptor.proto"
      [fileDescriptorSet, fileDescriptor, messageDescriptor,
        optionsOf "ExtensionRangeOptions" [] [] [], fieldDescriptor, oneofDescriptor,
        enumDescriptor, enumValueDescriptor, serviceDescriptor, methodDescriptor, fileOptions,
        messageOptions, fieldOptions, oneofOptions, enumOptions, enumValueOptions, serviceOptions,
        methodOptions, uninterpretedOption, sourceCodeInfo, generatedCodeInfo] with
    dialect := .proto2 }

end Typesmith.Proto.WellKnown
