import Typesmith.Proto.Declaration
import Typesmith.Text.Replace

/-! # Protobuf names

Every declaration has a full name. A relative name is looked up in the scope where it stands, then in
the scopes around it, and its first part decides which scope is meant.
-/

namespace Typesmith.Proto

inductive SymbolKind where
  | package | message | enum | service | extension
  | part
deriving DecidableEq, Repr

namespace SymbolKind

def isType (kind : SymbolKind) : Bool :=
  kind = message || kind = enum

def isScope (kind : SymbolKind) : Bool :=
  kind = package || kind = service || kind.isType

end SymbolKind

structure Symbol where
  fullName : String
  kind : SymbolKind
deriving DecidableEq, Repr

/-- Values of an enum stand in the scope of the enum itself. -/
def EnumDecl.symbols (scope : String) (decl : EnumDecl) : List Symbol :=
  ⟨qualify scope decl.name, .enum⟩ ::
    decl.values.map fun value => ⟨qualify scope value.name, .part⟩

mutual

def MessageDecl.symbols (scope : String) : MessageDecl → List Symbol
  | { name, fields, nested, enums, oneofs, extensions, .. } =>
    let inner := qualify scope name
    ⟨inner, .message⟩ :: fields.map (fun field => ⟨qualify inner field.name, .part⟩) ++
      oneofs.map (fun oneof => ⟨qualify inner oneof.name, .part⟩) ++
      nestedSymbols inner nested ++ enums.flatMap (EnumDecl.symbols inner) ++
      extensions.map fun field => ⟨qualify inner field.name, .extension⟩

def nestedSymbols (scope : String) : List MessageDecl → List Symbol
  | [] => []
  | decl :: rest => decl.symbols scope ++ nestedSymbols scope rest

end

def ServiceDecl.symbols (scope : String) (decl : ServiceDecl) : List Symbol :=
  let inner := qualify scope decl.name
  ⟨inner, .service⟩ :: decl.methods.map fun method => ⟨qualify inner method.name, .part⟩

def outward (fullName : String) : List String :=
  let parts := fullName.toList.splitOn '.'
  (List.range parts.length).reverse.map fun count =>
    .ofList (['.'].intercalate (parts.take (count + 1)))

def FileDecl.packages (file : FileDecl) : List String :=
  if file.package.isEmpty then [] else outward file.package

def FileDecl.symbols (file : FileDecl) : List Symbol :=
  file.packages.map (⟨·, .package⟩) ++ nestedSymbols file.package file.messages ++
    file.enums.flatMap (EnumDecl.symbols file.package) ++
    file.services.flatMap (ServiceDecl.symbols file.package) ++
    file.extensions.map fun field => ⟨qualify file.package field.name, .extension⟩

/-- No name is declared twice; only packages may be named again. -/
def distinctSymbols (symbols : List Symbol) : Bool :=
  let declared := (symbols.filter (·.kind ≠ .package)).map (·.fullName)
  let packages := (symbols.filter (·.kind = .package)).map (·.fullName)
  declared.eraseDups.length = declared.length && !declared.any packages.contains

def file? (files : List FileDecl) (name : String) : Option FileDecl :=
  files.find? (·.name == name)

/-- The files that imports bring in, with those that they pass on in turn. -/
def imported (files : List FileDecl) : Nat → List String → List FileDecl
  | 0, _ => []
  | steps + 1, names =>
    let found := names.filterMap (file? files)
    found ++ found.flatMap fun file => imported files steps file.publicImports

/-- The names that may be used in a file: its own, and those of its imports. -/
def visibleSymbols (files : List FileDecl) (file : FileDecl) : List Symbol :=
  (file :: imported files files.length file.imports).flatMap FileDecl.symbols

def symbol? (symbols : List Symbol) (fullName : String) : Option Symbol :=
  symbols.find? (·.fullName == fullName)

/-- Looks a relative name up in one scope after the other. A simple name passes over what is not
accepted; the first part of a longer one settles the scope. -/
def resolveIn? (symbols : List Symbol) (accepts : SymbolKind → Bool) (first name : String) :
    List String → Option Symbol
  | [] => none
  | scope :: outer =>
    if first = name then
      match (symbol? symbols (qualify scope name)).filter (accepts ·.kind) with
      | some found => some found
      | none => resolveIn? symbols accepts first name outer
    else
      match (symbol? symbols (qualify scope first)).filter (·.kind.isScope) with
      | some _ => (symbol? symbols (qualify scope name)).filter (accepts ·.kind)
      | none => resolveIn? symbols accepts first name outer

def resolve? (symbols : List Symbol) (accepts : SymbolKind → Bool) (scope name : String) :
    Option Symbol :=
  match Text.afterPrefix? "." name with
  | some absolute => (symbol? symbols absolute).filter (accepts ·.kind)
  | none =>
    let first := String.ofList (name.toList.takeWhile (· ≠ '.'))
    resolveIn? symbols accepts first name (outward scope ++ [""])

end Typesmith.Proto
