import Typesmith.Proto.Declaration
import Typesmith.Proto.Reader

/-! # Protobuf sources

The grammar of sources, read into declarations.
-/

namespace Typesmith.Proto.Source

open Reader

def dotted : Reader String := do
  return ".".intercalate (← separated '.' word)

/-- The name of a type; a dot at its front makes it absolute. -/
def typeName : Reader String := do
  if ← taken (.mark '.') then return "." ++ (← dotted)
  dotted

def fieldType : Reader FieldType := do
  let name ← typeName
  return match Scalar.ofName? name with
    | some scalar => .scalar scalar
    | none => .named name

def greatestNumber : Nat := 536870911

def fieldNumber : Reader Int := do
  let number ← natural
  if number = 0 ∨ greatestNumber < number then failure
  return number

def leastEnumNumber : Int := -0x80000000

def greatestEnumNumber : Int := 0x7fffffff

def enumNumber : Reader Int := do
  let number ← integer
  if number < leastEnumNumber ∨ greatestEnumNumber < number then failure
  return number

def range (number : Reader Int) (greatest : Int) : Reader NumberRange := do
  let first ← number
  if ← taken (.word "to") then
    let last ← if ← taken (.word "max") then pure greatest else number
    if last < first then failure
    return ⟨first, last⟩
  return ⟨first, first⟩

/-- Reserved ranges, or reserved names, which are of no account. -/
def reserved (number : Reader Int) (greatest : Int) : Reader (List NumberRange) := do
  let ranges ← match ← peek with
    | some (.text _) =>
      discard (separated ',' text)
      pure []
    | _ => separated ',' (range number greatest)
  mark ';'
  return ranges

def optionPart : Reader OptionPart := do
  if ← taken (.mark '(') then
    let name ← typeName
    mark ')'
    return .extension name
  return .field (← word)

/-- A field of an aggregate; `message` reads what stands between braces or angle brackets. -/
def aggregateField (message : Char → Reader Unit) : Reader Unit := do
  if ← taken (.mark '[') then
    discard (separated '/' dotted)
    mark ']'
  else
    discard word
  let colon ← taken (.mark ':')
  let item : Reader Unit := do
    match ← next with
    | .mark '\x7b' => message '\x7d'
    | .mark '<' => message '>'
    | token =>
      unless colon do failure
      match token with
      | .mark '-' =>
        match ← next with
        | .word _ | .integer _ | .real => return
        | _ => failure
      | .word _ | .integer _ | .real => return
      | .text _ =>
        let (_, rest) := moreBytes (← get)
        set rest
      | _ => failure
  if ← taken (.mark '[') then
    unless ← taken (.mark ']') do
      discard (separated ',' item)
      mark ']'
  else item
  unless ← taken (.mark ',') do
    discard (taken (.mark ';'))

def aggregate : Nat → Char → Reader Unit
  | 0, _ => failure
  | steps + 1, close => discard (upTo close (aggregateField (aggregate steps)))

def constant : Reader Constant := do
  match ← peek with
  | some (.text _) => return .text (← bytes)
  | _ =>
    match ← next with
    | .mark '\x7b' =>
      aggregate (← get).length '\x7d'
      return .aggregate
    | .mark '-' =>
      match ← next with
      | .integer value => return .integer (-value)
      | .real => return .real
      | .word name => return .negativeWord name
      | _ => failure
    | .integer value => return .integer value
    | .real => return .real
    | .word name => return .word name
    | _ => failure

def optionDecl : Reader OptionDecl := do
  let path ← separated '.' optionPart
  mark '='
  return ⟨path, ← constant⟩

def optionStatement : Reader OptionDecl := do
  let option ← optionDecl
  mark ';'
  return option

def bracketed : Reader (List OptionDecl) := do
  if ← taken (.mark '[') then
    let options ← separated ',' optionDecl
    mark ']'
    return options
  return []

/-- The value of an option that may be given once. -/
def single? (name : String) (options : List OptionDecl) : Reader (Option Constant) :=
  match options.filter (·.path = [.field name]) with
  | [] => return none
  | [option] => return some option.value
  | _ => failure

def flag (name : String) (options : List OptionDecl) : Bool :=
  options.contains ⟨[.field name], .word "true"⟩

/-- What stands around a field: a message, an oneof, or an extension of a message. -/
inductive Place where
  | message
  | oneof
  | extension (extendee : String)
deriving DecidableEq, Repr

structure FieldEntry where
  field : FieldDecl
  nested : Option MessageDecl := none

def label : Reader (Option Label) := do
  if ← taken (.word "optional") then return some .optional
  if ← taken (.word "required") then return some .required
  if ← taken (.word "repeated") then return some .repeated
  return none

/-- Only fields of messages and extensions have labels. The older dialect asks for one, the newer
knows no required fields. -/
def checkLabel (dialect : Dialect) (place : Place) (label : Option Label) : Reader Unit :=
  match place, label, dialect with
  | .oneof, none, _ => return
  | .oneof, some _, _ => failure
  | _, none, .proto2 => failure
  | _, some .required, .proto3 => failure
  | .extension _, some .required, _ => failure
  | _, _, _ => return

def withOptions (dialect : Dialect) (place : Place) (field : FieldDecl)
    (options : List OptionDecl) : Reader FieldDecl := do
  let defaultValue ← single? "default" options
  if defaultValue.isSome && dialect = .proto3 then failure
  let jsonName ← match ← single? "json_name" options with
    | none => pure none
    | some (.text bytes) => some <$> textOf bytes
    | some _ => failure
  let extendee ← match place with
    | .extension extendee =>
      if jsonName.isSome then failure
      pure (some extendee)
    | _ => pure none
  return { field with
    jsonName, extendee
    defaultValue := defaultValue.map .constant
    options := options.filter fun option =>
      option.path ≠ [.field "default"] && option.path ≠ [.field "json_name"] }

def mapField : Reader FieldEntry := do
  mark '<'
  let key ← fieldType
  match key with
  | .scalar scalar => unless scalar.isMapKey do failure
  | _ => failure
  mark ','
  let value ← fieldType
  mark '>'
  let name ← word
  mark '='
  let number ← fieldNumber
  let options ← bracketed
  mark ';'
  let entry : MessageDecl := {
    name := mapEntryName name
    fields := [{ name := "key", number := 1, type := key },
      { name := "value", number := 2, type := value }]
    isMapEntry := true }
  let field : FieldDecl := {
    name, number
    type := .message entry.name
    label := .repeated }
  let field ← withOptions .proto3 .message field options
  return ⟨field, some entry⟩

/-- A group, after `group`: a field and the message of its values. -/
def group (dialect : Dialect) (place : Place) (label : Label) (body : String → Reader MessageDecl) :
    Reader FieldEntry := do
  if dialect = .proto3 then failure
  let name ← word
  unless name.toList.head?.any Char.isUpper do failure
  mark '='
  let number ← fieldNumber
  let options ← bracketed
  let message ← body name
  let field : FieldDecl := { name := name.toLower, number, type := .message name, label }
  return ⟨← withOptions dialect place field options, some message⟩

/-- A field; `body` reads the braces of a message of a given name. -/
def fieldEntry (dialect : Dialect) (place : Place) (body : String → Reader MessageDecl) :
    Reader FieldEntry := do
  let label ← label
  match ← get with
  | .word "map" :: .mark '<' :: rest =>
    if label.isSome || place ≠ .message then failure
    set (Token.mark '<' :: rest)
    mapField
  | _ =>
    checkLabel dialect place label
    let label := label.getD .optional
    if ← taken (.word "group") then
      group dialect place label body
    else
      let type ← fieldType
      let name ← word
      mark '='
      let number ← fieldNumber
      let options ← bracketed
      mark ';'
      return ⟨← withOptions dialect place { name, number, type, label } options, none⟩

def extensions (dialect : Dialect) (body : String → Reader MessageDecl) :
    Reader (List FieldEntry) := do
  let extendee ← typeName
  mark '\x7b'
  let entries ← upTo '\x7d' do
    if ← taken (.mark ';') then return none
    return some (← fieldEntry dialect (.extension extendee) body)
  return entries.filterMap id

inductive EnumElement where
  | value (decl : EnumValueDecl)
  | reserved (ranges : List NumberRange)
  | option (decl : OptionDecl)
  | empty

def enumElement : Reader EnumElement := do
  if ← taken (.mark ';') then return .empty
  if ← taken (.word "option") then return .option (← optionStatement)
  if ← taken (.word "reserved") then
    return .reserved (← reserved enumNumber greatestEnumNumber)
  let name ← word
  mark '='
  let number ← enumNumber
  let options ← bracketed
  mark ';'
  return .value ⟨name, number, options⟩

def enumDecl : Reader EnumDecl := do
  let name ← word
  mark '\x7b'
  let elements ← upTo '\x7d' enumElement
  let options := elements.filterMap fun
    | .option decl => some decl
    | _ => none
  return {
    name, options
    values := elements.filterMap fun
      | .value decl => some decl
      | _ => none
    allowAlias := flag "allow_alias" options
    reserved := elements.flatMap fun
      | .reserved ranges => ranges
      | _ => [] }

inductive Element where
  | field (entry : FieldEntry)
  | message (decl : MessageDecl)
  | enum (decl : EnumDecl)
  | oneof (decl : OneofDecl) (entries : List FieldEntry)
  | extensions (entries : List FieldEntry)
  | extensionRanges (ranges : List NumberRange)
  | reserved (ranges : List NumberRange)
  | option (decl : OptionDecl)
  | empty

namespace Element

def addTo (message : MessageDecl) : Element → MessageDecl
  | field entry =>
    { message with
      fields := message.fields ++ [entry.field]
      nested := message.nested ++ entry.nested.toList }
  | .message decl => { message with nested := message.nested ++ [decl] }
  | enum decl => { message with enums := message.enums ++ [decl] }
  | oneof decl entries =>
    let index : Int := message.oneofs.length
    { message with
      oneofs := message.oneofs ++ [decl]
      fields := message.fields ++ entries.map fun entry => { entry.field with oneof := some index }
      nested := message.nested ++ entries.filterMap (·.nested) }
  | extensions entries =>
    { message with
      extensions := message.extensions ++ entries.map (·.field)
      nested := message.nested ++ entries.filterMap (·.nested) }
  | extensionRanges ranges =>
    { message with extensionRanges := message.extensionRanges ++ ranges }
  | reserved ranges => { message with reserved := message.reserved ++ ranges }
  | option decl => { message with options := message.options ++ [decl] }
  | empty => message

end Element

inductive OneofElement where
  | field (entry : FieldEntry)
  | option (decl : OptionDecl)
  | empty

/-- An oneof, after `oneof`; it has at least one field. -/
def oneof (dialect : Dialect) (body : String → Reader MessageDecl) : Reader Element := do
  let name ← word
  mark '\x7b'
  let elements ← upTo '\x7d' do
    if ← taken (.mark ';') then return OneofElement.empty
    if ← taken (.word "option") then return .option (← optionStatement)
    return .field (← fieldEntry dialect .oneof body)
  let entries := elements.filterMap fun
    | .field entry => some entry
    | _ => none
  if entries.isEmpty then failure
  return .oneof ⟨name, elements.filterMap fun
    | .option decl => some decl
    | _ => none⟩ entries

def element (dialect : Dialect) (body : String → Reader MessageDecl) : Reader Element := do
  if ← taken (.mark ';') then return .empty
  if ← taken (.word "message") then return .message (← body (← word))
  if ← taken (.word "enum") then return .enum (← enumDecl)
  if ← taken (.word "oneof") then oneof dialect body
  else if ← taken (.word "extend") then return .extensions (← extensions dialect body)
  else if ← taken (.word "extensions") then
    let ranges ← separated ',' (range fieldNumber greatestNumber)
    discard bracketed
    mark ';'
    return .extensionRanges ranges
  else if ← taken (.word "reserved") then
    return .reserved (← reserved fieldNumber greatestNumber)
  else if ← taken (.word "option") then return .option (← optionStatement)
  else return .field (← fieldEntry dialect .message body)

/-- The braces of a message; every level takes at least one token. -/
def messageBody (dialect : Dialect) : Nat → String → Reader MessageDecl
  | 0, _ => failure
  | steps + 1, name => do
    mark '\x7b'
    let elements ← upTo '\x7d' (element dialect (messageBody dialect steps))
    return elements.foldl Element.addTo { name }

def methodType : Reader String := do
  mark '('
  discard (taken (.word "stream"))
  let name ← typeName
  mark ')'
  return name

def optionOrEmpty : Reader (Option OptionDecl) := do
  if ← taken (.mark ';') then return none
  expect (.word "option")
  return some (← optionStatement)

def method : Reader MethodDecl := do
  let name ← word
  let input ← methodType
  expect (.word "returns")
  let output ← methodType
  let options ← if ← taken (.mark '\x7b') then
      pure ((← upTo '\x7d' optionOrEmpty).filterMap id)
    else
      mark ';'
      pure []
  return { name, input, output, options }

inductive ServiceElement where
  | method (decl : MethodDecl)
  | option (decl : Option OptionDecl)

def service : Reader ServiceDecl := do
  let name ← word
  mark '\x7b'
  let elements ← upTo '\x7d' do
    if ← taken (.word "rpc") then return ServiceElement.method (← method)
    return .option (← optionOrEmpty)
  return {
    name
    methods := elements.filterMap fun
      | .method decl => some decl
      | _ => none
    options := elements.filterMap fun
      | .option decl => decl
      | _ => none }

inductive FileElement where
  | package (name : String)
  | importFile (path : String) (isPublic : Bool)
  | element (element : Element)
  | service (decl : ServiceDecl)

def isImportPath (path : String) : Bool :=
  !path.toList.contains '\\' &&
    (path.toList.splitOn '/').all fun part =>
      !part.isEmpty && part ≠ ['.'] && part ≠ ['.', '.']

def importFile : Reader FileElement := do
  let isPublic ← taken (.word "public")
  unless isPublic do discard (taken (.word "weak"))
  let path ← text
  mark ';'
  unless isImportPath path do failure
  return .importFile path isPublic

def fileElement (dialect : Dialect) (body : String → Reader MessageDecl) : Reader FileElement := do
  if ← taken (.mark ';') then return .element .empty
  match ← word with
  | "package" =>
    let name ← dotted
    mark ';'
    return .package name
  | "import" => importFile
  | "option" => return .element (.option (← optionStatement))
  | "message" => return .element (.message (← body (← word)))
  | "enum" => return .element (.enum (← enumDecl))
  | "service" => return .service (← service)
  | "extend" => return .element (.extensions (← extensions dialect body))
  | _ => failure

/-- The dialect that the first statement names; the older one if it names none. -/
def dialect : Reader Dialect := do
  if ← taken (.word "syntax") then
    mark '='
    let name ← text
    mark ';'
    match name with
    | "proto2" => return .proto2
    | "proto3" => return .proto3
    | _ => failure
  else return .proto2

def file (name : String) : Reader FileDecl := do
  let dialect ← dialect
  let body := messageBody dialect (← get).length
  let elements ← toEnd (fileElement dialect body)
  let package ← match elements.filterMap fun
      | .package name => some name
      | _ => none with
    | [] => pure ""
    | [name] => pure name
    | _ => failure
  let top := (elements.filterMap fun
    | .element element => some element
    | _ => none).foldl Element.addTo { name := "" }
  return {
    name, package, dialect
    imports := elements.filterMap fun
      | .importFile path _ => some path
      | _ => none
    publicImports := elements.filterMap fun
      | .importFile path true => some path
      | _ => none
    messages := top.nested
    enums := top.enums
    extensions := top.extensions
    options := top.options
    services := elements.filterMap fun
      | .service decl => some decl
      | _ => none }

end Source

def FileDecl.parse? (name source : String) : Option FileDecl := do
  let (file, _) ← (Source.file name).run (← Token.scan? source)
  return file

end Typesmith.Proto
