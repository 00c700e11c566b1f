import Typesmith.Proto.Pool
import Typesmith.Proto.Wire

/-! # Encoded descriptor sets

The declarations of files as they travel in the wire format.
-/

namespace Typesmith.Proto.DescriptorSet

open Wire

abbrev Records := List WireRecord

def name? (records : Records) : Option String :=
  (last? text? records 1).join

def label? : Option Int → Option Label
  | none | some 1 => some .optional
  | some 2 => some .required
  | some 3 => some .repeated
  | _ => none

def scalar? : Int → Option Scalar
  | 1 => some .double
  | 2 => some .float
  | 3 => some .int64
  | 4 => some .uint64
  | 5 => some .int32
  | 6 => some .fixed64
  | 7 => some .fixed32
  | 8 => some .bool
  | 9 => some .string
  | 12 => some .bytes
  | 13 => some .uint32
  | 15 => some .sfixed32
  | 16 => some .sfixed64
  | 17 => some .sint32
  | 18 => some .sint64
  | _ => none

def fieldType? : Option Int → Option String → Option FieldType
  | none, some name => some (.named name)
  | some 10, some name | some 11, some name => some (.message name)
  | some 14, some name => some (.enum name)
  | some code, _ => (scalar? code).map .scalar
  | none, none => none

def field? (records : Records) : Option FieldDecl := do
  discard (merged? records 8)
  discard (flag? records 17)
  return {
    name := ← name? records
    extendee := ← last? text? records 2
    number := (← integer? records 3).getD 0
    label := ← label? (← integer? records 4)
    type := ← fieldType? (← integer? records 5) (← last? text? records 6)
    defaultValue := (← last? text? records 7).map .text
    oneof := ← integer? records 9
    jsonName := ← last? text? records 10 }

/-- A range from its first number to the one after its last. -/
def openRange? (records : Records) : Option NumberRange := do
  return ⟨(← integer? records 1).getD 0, (← integer? records 2).getD 0 - 1⟩

def closedRange? (records : Records) : Option NumberRange := do
  return ⟨(← integer? records 1).getD 0, (← integer? records 2).getD 0⟩

def enumValue? (records : Records) : Option EnumValueDecl := do
  discard (merged? records 3)
  return { name := ← name? records, number := (← integer? records 2).getD 0 }

def enum? (records : Records) : Option EnumDecl := do
  let options ← merged? records 3
  discard (repeated? text? records 5)
  return {
    name := ← name? records
    values := ← messages? enumValue? records 2
    allowAlias := ← flag? options 2
    reserved := ← messages? closedRange? records 4 }

def oneof? (records : Records) : Option OneofDecl := do
  discard (merged? records 2)
  return { name := ← name? records }

/-- Messages may be nested to a given depth. -/
def message? : Nat → Records → Option MessageDecl
  | 0, _ => none
  | depth + 1, records => do
    let options ← merged? records 7
    discard (repeated? text? records 10)
    return {
      name := ← name? records
      fields := ← messages? field? records 2
      nested := ← messages? (message? depth) records 3
      enums := ← messages? enum? records 4
      extensionRanges := ← messages? openRange? records 5
      extensions := ← messages? field? records 6
      oneofs := ← messages? oneof? records 8
      reserved := ← messages? openRange? records 9
      isMapEntry := ← flag? options 7 }

def method? (records : Records) : Option MethodDecl := do
  discard (merged? records 4)
  discard (flag? records 5)
  discard (flag? records 6)
  return {
    name := ← name? records
    input := (← last? text? records 2).getD ""
    output := (← last? text? records 3).getD "" }

def service? (records : Records) : Option ServiceDecl := do
  discard (merged? records 3)
  return { name := ← name? records, methods := ← messages? method? records 2 }

def dialect? : Option String → Option Dialect
  | none | some "proto2" => some .proto2
  | some "proto3" => some .proto3
  | _ => none

def depthLimit : Nat := 98

def file? (records : Records) : Option FileDecl := do
  discard (merged? records 8)
  discard (merged? records 9)
  discard (integers? records 11)
  let imports ← repeated? text? records 3
  return {
    name := (← last? text? records 1).getD ""
    package := (← last? text? records 2).getD ""
    imports
    publicImports := ← (← integers? records 10).mapM fun index =>
      if 0 ≤ index then imports[index.toNat]? else none
    messages := ← messages? (message? depthLimit) records 4
    enums := ← messages? enum? records 5
    services := ← messages? service? records 6
    extensions := ← messages? field? records 7
    dialect := ← dialect? (← last? text? records 12) }

end DescriptorSet

/-- The declarations of an encoded set of files. -/
def FileDecl.decode? (bytes : List UInt8) : Option (List FileDecl) :=
  (Wire.records? bytes).bind fun records =>
    Wire.messages? DescriptorSet.file? records 1

def Pool.decode? (bytes : List UInt8) : Option Pool :=
  (FileDecl.decode? bytes).bind ofFiles?

end Typesmith.Proto
