import Typesmith.Proto.Kind

/-! # Protobuf declarations

What a file declares, before names are resolved.
-/

namespace Typesmith.Proto

inductive Dialect where
  | proto2 | proto3
deriving DecidableEq, Repr

inductive Label where
  | optional | required | repeated
deriving DecidableEq, Repr

/-- The value of an option. -/
inductive Constant where
  | word (name : String)
  | negativeWord (name : String)
  | integer (value : Int)
  | real
  | text (bytes : List UInt8)
  | aggregate
deriving DecidableEq, Repr

inductive OptionPart where
  | field (name : String)
  | extension (name : String)
deriving DecidableEq, Repr

structure OptionDecl where
  path : List OptionPart
  value : Constant
deriving DecidableEq, Repr

/-- The type of a field as it is declared; a name may or may not say what it denotes. -/
inductive FieldType where
  | scalar (type : Scalar)
  | message (name : String)
  | enum (name : String)
  | named (name : String)
deriving DecidableEq, Repr

/-- The default of a field: a constant of a source, or the text of one. -/
inductive DefaultDecl where
  | constant (value : Constant)
  | text (value : String)
deriving DecidableEq, Repr

structure FieldDecl where
  name : String
  number : Int
  type : FieldType
  label : Label := .optional
  jsonName : Option String := none
  extendee : Option String := none
  defaultValue : Option DefaultDecl := none
  oneof : Option Int := none
  options : List OptionDecl := []
deriving DecidableEq, Repr

/-- Numbers from `first` to `last`. -/
structure NumberRange where
  first : Int
  last : Int
deriving DecidableEq, Repr

def NumberRange.contains (range : NumberRange) (number : Int) : Bool :=
  range.first ≤ number && number ≤ range.last

structure EnumValueDecl where
  name : String
  number : Int
  options : List OptionDecl := []
deriving DecidableEq, Repr

structure EnumDecl where
  name : String
  values : List EnumValueDecl
  allowAlias : Bool := false
  reserved : List NumberRange := []
  options : List OptionDecl := []
deriving DecidableEq, Repr

structure OneofDecl where
  name : String
  options : List OptionDecl := []
deriving DecidableEq, Repr

structure MessageDecl where
  name : String
  fields : List FieldDecl := []
  nested : List MessageDecl := []
  enums : List EnumDecl := []
  oneofs : List OneofDecl := []
  extensions : List FieldDecl := []
  extensionRanges : List NumberRange := []
  reserved : List NumberRange := []
  isMapEntry : Bool := false
  options : List OptionDecl := []
deriving Inhabited

structure MethodDecl where
  name : String
  input : String
  output : String
  options : List OptionDecl := []
deriving DecidableEq, Repr

structure ServiceDecl where
  name : String
  methods : List MethodDecl := []
  options : List OptionDecl := []
deriving DecidableEq, Repr

structure FileDecl where
  name : String
  package : String := ""
  dialect : Dialect := .proto2
  imports : List String := []
  publicImports : List String := []
  messages : List MessageDecl := []
  enums : List EnumDecl := []
  services : List ServiceDecl := []
  extensions : List FieldDecl := []
  options : List OptionDecl := []
deriving Inhabited

/-- The name in camel case: underscores go and the letters after them are raised. -/
def raiseAfterUnderscore : Bool → List Char → List Char
  | _, [] => []
  | raise, c :: rest =>
    if c = '_' then raiseAfterUnderscore true rest
    else (if raise then c.toUpper else c) :: raiseAfterUnderscore false rest

def defaultJsonName (name : String) : String :=
  .ofList (raiseAfterUnderscore false name.toList)

def mapEntryName (field : String) : String :=
  .ofList (raiseAfterUnderscore true field.toList) ++ "Entry"

def FieldDecl.wireName (field : FieldDecl) : String :=
  field.jsonName.getD (defaultJsonName field.name)

end Typesmith.Proto
