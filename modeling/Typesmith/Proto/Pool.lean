import Typesmith.Proto.Scope
import Typesmith.Proto.Token

/-! # Descriptor pools

The messages and enums of a set of files, with the names in them resolved. Files with a clash, a bad
number or an unknown name make no pool.
-/

namespace Typesmith.Proto

structure FieldDescriptor where
  name : String
  jsonName : String
  number : Int
  kind : Kind
  repeated : Bool
  /-- The kinds of the keys and the values, if the field is a map. -/
  mapEntry : Option (Kind × Kind) := none
  defaultValue : Option DefaultDecl := none
deriving DecidableEq, Repr

structure MessageDescriptor where
  fullName : String
  fields : List FieldDescriptor
  isMapEntry : Bool
deriving DecidableEq, Repr

structure EnumDescriptor where
  fullName : String
  values : List (String × Int)
deriving DecidableEq, Repr

def EnumDescriptor.declares (descriptor : EnumDescriptor) (value : String) : Bool :=
  descriptor.values.any (·.1 == value)

structure ExtensionDescriptor where
  fullName : String
  extendee : String
  field : FieldDescriptor
deriving DecidableEq, Repr

structure Pool where
  messages : List MessageDescriptor := []
  enums : List EnumDescriptor := []
  extensions : List ExtensionDescriptor := []
deriving DecidableEq, Repr, Inhabited

namespace Pool

def message? (pool : Pool) (fullName : String) : Option MessageDescriptor :=
  pool.messages.find? (·.fullName == fullName)

def enum? (pool : Pool) (fullName : String) : Option EnumDescriptor :=
  pool.enums.find? (·.fullName == fullName)

def append (pool other : Pool) : Pool where
  messages := pool.messages ++ other.messages
  enums := pool.enums ++ other.enums
  extensions := pool.extensions ++ other.extensions

instance : Append Pool := ⟨append⟩

end Pool

def distinct {α : Type} [BEq α] (items : List α) : Bool :=
  items.eraseDups.length = items.length

def isFieldNumber (number : Int) : Bool :=
  1 ≤ number && number ≤ 536870911 && !(19000 ≤ number && number ≤ 19999)

/-- The form of a name in which fields of one message differ in the newer dialect. -/
def foldedName (name : String) : String :=
  .ofList ((name.toList.filter (· ≠ '_')).map Char.toLower)

def MessageDecl.isValid (dialect : Dialect) (decl : MessageDecl) : Bool :=
  let numbers := decl.fields.map (·.number)
  numbers.all isFieldNumber && distinct numbers &&
    !numbers.any (fun number =>
      (decl.reserved ++ decl.extensionRanges).any (·.contains number)) &&
    distinct (decl.fields.map FieldDecl.wireName) &&
    (dialect = .proto2 || distinct (decl.fields.map (foldedName ·.name))) &&
    decl.fields.all fun field =>
      field.oneof.all fun index => decide (0 ≤ index ∧ index < (decl.oneofs.length : Int))

def EnumDecl.isValid (dialect : Dialect) (decl : EnumDecl) : Bool :=
  let numbers := decl.values.map (·.number)
  !numbers.isEmpty && (dialect = .proto2 || numbers.head? = some 0) &&
    (decl.allowAlias || distinct numbers) &&
    !numbers.any fun number => decl.reserved.any (·.contains number)

def FieldType.kind? (symbols : List Symbol) (scope : String) : FieldType → Option Kind
  | scalar type => some (.scalar type)
  | message name => do
    let found ← resolve? symbols SymbolKind.isType scope name
    if found.kind = .message then some (.message found.fullName) else none
  | enum name => do
    let found ← resolve? symbols SymbolKind.isType scope name
    if found.kind = .enum then some (.enum found.fullName) else none
  | named name => do
    let found ← resolve? symbols SymbolKind.isType scope name
    return if found.kind = .enum then .enum found.fullName else .message found.fullName

def FieldDecl.descriptor? (symbols : List Symbol) (scope : String) (decl : FieldDecl) :
    Option FieldDescriptor := do
  return {
    name := decl.name
    jsonName := decl.wireName
    number := decl.number
    kind := ← decl.type.kind? symbols scope
    repeated := decl.label = .repeated
    defaultValue := decl.defaultValue }

def FieldDecl.extension? (symbols : List Symbol) (scope : String) (decl : FieldDecl) :
    Option ExtensionDescriptor := do
  let extendee ← resolve? symbols SymbolKind.isType scope (← decl.extendee)
  if extendee.kind ≠ .message then none
  else return ⟨qualify scope decl.name, extendee.fullName, ← decl.descriptor? symbols scope⟩

def EnumDecl.descriptor? (dialect : Dialect) (scope : String) (decl : EnumDecl) :
    Option EnumDescriptor :=
  if decl.isValid dialect then
    some ⟨qualify scope decl.name, decl.values.map fun value => (value.name, value.number)⟩
  else none

mutual

/-- The descriptors of a message and of what stands inside it, the message first. -/
def MessageDecl.pool? (dialect : Dialect) (symbols : List Symbol) (scope : String) :
    MessageDecl → Option Pool
  | decl@{ name, nested, .. } => do
    let inner := qualify scope name
    if !decl.isValid dialect then none
    else
      let fields ← decl.fields.mapM (·.descriptor? symbols inner)
      let first : Pool := { messages := [⟨inner, fields, decl.isMapEntry⟩] }
      let last : Pool := {
        enums := ← decl.enums.mapM (·.descriptor? dialect inner)
        extensions := ← decl.extensions.mapM (·.extension? symbols inner) }
      return first ++ (← nestedPool? dialect symbols inner nested) ++ last

def nestedPool? (dialect : Dialect) (symbols : List Symbol) (scope : String) :
    List MessageDecl → Option Pool
  | [] => some {}
  | decl :: rest => do
    return (← decl.pool? dialect symbols scope) ++ (← nestedPool? dialect symbols scope rest)

end

def MethodDecl.isValid (symbols : List Symbol) (scope : String) (decl : MethodDecl) : Bool :=
  [decl.input, decl.output].all fun name =>
    (resolve? symbols SymbolKind.isType scope name).any (·.kind = .message)

def ServiceDecl.isValid (symbols : List Symbol) (scope : String) (decl : ServiceDecl) : Bool :=
  decl.methods.all (MethodDecl.isValid symbols (qualify scope decl.name))

def FileDecl.pool? (files : List FileDecl) (file : FileDecl) : Option Pool := do
  let symbols := visibleSymbols files file
  let scope := file.package
  if file.services.all (ServiceDecl.isValid symbols scope) then
    let nested ← nestedPool? file.dialect symbols scope file.messages
    let last : Pool := {
      enums := ← file.enums.mapM (·.descriptor? file.dialect scope)
      extensions := ← file.extensions.mapM (·.extension? symbols scope) }
    return nested ++ last
  else none

def Constant.suits (pool : Pool) (kind : Kind) (value : Constant) : Bool :=
  match kind, value with
  | .message _, .aggregate => true
  | .enum name, .word s => (pool.enum? name).any (·.declares s)
  | .scalar type, value =>
    match type.kind, value with
    | .bool, .word s => s = "true" || s = "false"
    | .string, .text bytes => (String.fromUTF8? ⟨bytes.toArray⟩).isSome
    | .bytes, .text _ => true
    | .float, .integer _ | .double, .integer _ | .float, .real | .double, .real => true
    | .float, .word s | .double, .word s | .float, .negativeWord s | .double, .negativeWord s =>
      s = "inf" || s = "nan"
    | kind, .integer n => kind.holds n
    | _, _ => false
  | _, _ => false

def signed : List Char → Bool × List Char
  | '-' :: cs => (true, cs)
  | '+' :: cs => (false, cs)
  | cs => (false, cs)

def Constant.ofText? (kind : Kind) (s : String) : Option Constant :=
  let (negative, cs) := signed s.toList
  match kind with
  | .message _ => none
  | .enum _ => some (.word s)
  | .scalar type =>
    match type.kind with
    | .bool => some (.word s)
    | .string | .bytes => some (.text s.toUTF8.toList)
    | .float | .double | .number =>
      if cs = ['i', 'n', 'f'] ∨ cs = ['n', 'a', 'n'] then some (.word (.ofList cs))
      else
        match Token.number? cs with
        | some (_, []) => some .real
        | _ => none
    | _ => (Token.natOf? 10 cs).map fun n => .integer (if negative then -n else n)

def DefaultDecl.suits (pool : Pool) (kind : Kind) : DefaultDecl → Bool
  | .constant value => value ≠ .aggregate && value.suits pool kind
  | .text s => (Constant.ofText? kind s).any (·.suits pool kind)

mutual

def MessageDecl.named (scope : String) : MessageDecl → List (String × MessageDecl)
  | decl@{ name, nested, .. } =>
    (qualify scope name, decl) :: nestedNamed (qualify scope name) nested

def nestedNamed (scope : String) : List MessageDecl → List (String × MessageDecl)
  | [] => []
  | decl :: rest => decl.named scope ++ nestedNamed scope rest

end

namespace Pool

def defaultSuits (pool : Pool) (field : FieldDescriptor) : Bool :=
  field.defaultValue.all fun value => !field.repeated && value.suits pool field.kind

def defaultsSuit (pool : Pool) : Bool :=
  pool.messages.all (fun message => message.fields.all pool.defaultSuits) &&
    pool.extensions.all (pool.defaultSuits ·.field)

/-- An extension has a number that its message leaves open, and no other has it. -/
def extensionsValid (pool : Pool) (named : List (String × MessageDecl)) : Bool :=
  distinct (pool.extensions.map fun found => (found.extendee, found.field.number)) &&
    pool.extensions.all fun found =>
      isFieldNumber found.field.number &&
        (named.lookup found.extendee).any fun decl =>
          decl.extensionRanges.any (·.contains found.field.number)

/-- The kinds of the entries of a map, if a field is one. -/
def mapEntry? (pool : Pool) (field : FieldDescriptor) : Option (Kind × Kind) :=
  match field.kind with
  | .message name => do
    let entry ← (pool.message? name).filter (·.isMapEntry && field.repeated)
    let key ← entry.fields.find? (·.number = 1)
    let value ← entry.fields.find? (·.number = 2)
    return (key.kind, value.kind)
  | _ => none

def withMaps (pool : Pool) : Pool :=
  { pool with messages := pool.messages.map fun message =>
      { message with fields := message.fields.map fun field =>
          { field with mapEntry := pool.mapEntry? field } } }

/-- The pool of files that import nothing but each other, in their order. -/
def ofFiles? (files : List FileDecl) : Option Pool := do
  let names := files.map (·.name)
  let importsFound := files.all (·.imports.all names.contains)
  if distinct names && importsFound && distinctSymbols (files.flatMap FileDecl.symbols) then
    let pool := (← files.mapM (·.pool? files)).foldl append {}
    let named := files.flatMap fun file => nestedNamed file.package file.messages
    if pool.defaultsSuit && pool.extensionsValid named then some pool.withMaps else none
  else none

end Pool

end Typesmith.Proto
