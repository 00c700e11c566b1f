import Typesmith.Proto.Closed

/-! # Descriptors of a service

The pool of one service, searched by short names. The name of the service is its package.
-/

namespace Typesmith.Proto

structure Descriptors where
  package : String
  pool : Pool
  closed : pool.Closed := by decide
deriving DecidableEq, Repr

instance : Inhabited Descriptors := ⟨{ package := "", pool := {} }⟩

namespace Descriptors

/-- The message of a name in the package; else the first one that has the short name. -/
def message? (descriptors : Descriptors) (name : String) : Option MessageDescriptor :=
  (descriptors.pool.message? (descriptors.package ++ "." ++ name)).or
    (descriptors.pool.messages.find? (shortName ·.fullName == name))

/-- The enum of a name in the package; else the first one that has the short name. -/
def enum? (descriptors : Descriptors) (name : String) : Option EnumDescriptor :=
  (descriptors.pool.enum? (descriptors.package ++ "." ++ name)).or
    (descriptors.pool.enums.find? (shortName ·.fullName == name))

def field? (descriptors : Descriptors) (message field : String) : Option FieldDescriptor := do
  let found ← descriptors.message? message
  (found.fields.find? (·.name == field)).or (found.fields.find? (·.jsonName == field))

/-- Reads a source, or an encoded set of descriptors where the extension is another. -/
def read (tree : FileTree) (package path : String) : Except SourceFailure Descriptors :=
  if Path.extension? path = some "proto" then
    if tree.isFile path then
      match compiled : Pool.compile? tree path with
      | some pool => .ok { package, pool, closed := Pool.closed_of_compile? compiled }
      | none => .error (.malformed "malformed protobuf source")
    else .error (.missing path)
  else
    match tree.readBytes path with
    | .error cause => .error (.unreadable path cause)
    | .ok bytes =>
      match decoded : Pool.decode? bytes with
      | some pool => .ok { package, pool, closed := Pool.closed_of_decode? decoded }
      | none => .error (.malformed "malformed descriptor set")

end Descriptors

end Typesmith.Proto
