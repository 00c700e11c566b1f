import Typesmith.Proto.Pool
import Typesmith.Proto.WellKnown

/-! # Options

The options of a declaration are fields of the options message of its sort, or extensions of it. An
option is valid if its path leads to a field that takes its value, and no option is given twice.
-/

namespace Typesmith.Proto

/-- What options may be set on. -/
inductive OptionTarget where
  | file | message | field | oneof | enum | enumValue | service | method
deriving DecidableEq, Repr

def OptionTarget.messageName : OptionTarget → String
  | file => "google.protobuf.FileOptions"
  | message => "google.protobuf.MessageOptions"
  | field => "google.protobuf.FieldOptions"
  | oneof => "google.protobuf.OneofOptions"
  | enum => "google.protobuf.EnumOptions"
  | enumValue => "google.protobuf.EnumValueOptions"
  | service => "google.protobuf.ServiceOptions"
  | method => "google.protobuf.MethodOptions"

def optionsPool : Pool :=
  (Pool.ofFiles? [WellKnown.descriptorFile]).getD {}

structure OptionScope where
  pool : Pool
  symbols : List Symbol
  name : String

namespace OptionScope

variable (scope : OptionScope)

def field? (message : String) : OptionPart → Option FieldDescriptor
  | .field name => do
    let found ← (scope.pool.message? message).or (optionsPool.message? message)
    found.fields.find? (·.name == name)
  | .extension name => do
    let found ← resolve? scope.symbols (· = .extension) scope.name name
    let extension ← scope.pool.extensions.find? (·.fullName == found.fullName)
    if extension.extendee = message then some extension.field else none

/-- The field at the end of a path that starts in a message. -/
def follow? (message : String) : List OptionPart → Option FieldDescriptor
  | [] => none
  | [part] => scope.field? message part
  | part :: rest => do
    let field ← scope.field? message part
    match field.kind with
    | .message inner => if field.repeated then none else follow? inner rest
    | _ => none

/-- The fields that the options set; none if one is unknown or does not take its value. -/
def fields? (target : OptionTarget) (options : List OptionDecl) :
    Option (List (List OptionPart × FieldDescriptor)) :=
  options.mapM fun option => do
    let field ← scope.follow? target.messageName option.path
    if option.value.suits (scope.pool ++ optionsPool) field.kind then some (option.path, field)
    else none

def valid (target : OptionTarget) (options : List OptionDecl) : Bool :=
  match scope.fields? target options with
  | some fields => distinct ((fields.filter (!·.2.repeated)).map (·.1))
  | none => false

def inner (name : String) : OptionScope :=
  { scope with name := qualify scope.name name }

end OptionScope

def FieldDecl.optionsValid (scope : OptionScope) (decl : FieldDecl) : Bool :=
  (scope.inner decl.name).valid .field decl.options

def EnumDecl.optionsValid (scope : OptionScope) (decl : EnumDecl) : Bool :=
  let scope := scope.inner decl.name
  scope.valid .enum decl.options &&
    decl.values.all fun value => (scope.inner value.name).valid .enumValue value.options

mutual

def MessageDecl.optionsValid (scope : OptionScope) : MessageDecl → Bool
  | decl@{ name, nested, .. } =>
    let inner := scope.inner name
    inner.valid .message decl.options && decl.fields.all (·.optionsValid inner) &&
      decl.extensions.all (·.optionsValid inner) && decl.enums.all (·.optionsValid inner) &&
      decl.oneofs.all (fun oneof => (inner.inner oneof.name).valid .oneof oneof.options) &&
      nestedOptionsValid inner nested

def nestedOptionsValid (scope : OptionScope) : List MessageDecl → Bool
  | [] => true
  | decl :: rest => decl.optionsValid scope && nestedOptionsValid scope rest

end

def ServiceDecl.optionsValid (scope : OptionScope) (decl : ServiceDecl) : Bool :=
  let inner := scope.inner decl.name
  inner.valid .service decl.options &&
    decl.methods.all fun method => (inner.inner method.name).valid .method method.options

def FileDecl.optionsValid (pool : Pool) (files : List FileDecl) (file : FileDecl) : Bool :=
  let scope : OptionScope := ⟨pool, visibleSymbols files file, file.package⟩
  scope.valid .file file.options && nestedOptionsValid scope file.messages &&
    file.enums.all (·.optionsValid scope) && file.services.all (·.optionsValid scope) &&
    file.extensions.all (·.optionsValid scope)

end Typesmith.Proto
