import Typesmith.Toml.Word

/-! # TOML documents

A document is a table, built statement by statement. A table may be opened by one header only; the
tables that a header passes over may be opened later, and dotted keys add to tables that dotted keys
have made.
-/

namespace Typesmith.Toml

/-- How a table came to be: by its own header, on the way to that of another, or by a dotted key. -/
inductive Origin where
  | header | implied | dotted
deriving DecidableEq, Repr

/-- An entry of a table under construction; a finished value takes no more entries. -/
inductive Node where
  | value (value : Value)
  | table (origin : Origin) (entries : List (String × Node))
  | tables (items : List (List (String × Node)))
deriving Inhabited

namespace Node

mutual

def finish : Node → Value
  | value v => v
  | table _ entries => .table (finishEntries entries)
  | tables items => .array (finishTables items)

def finishEntries : List (String × Node) → Table
  | [] => []
  | (name, node) :: rest => (name, node.finish) :: finishEntries rest

def finishTables : List (List (String × Node)) → List Value
  | [] => []
  | entries :: rest => .table (finishEntries entries) :: finishTables rest

end

end Node

structure Draft where
  origin : Origin
  entries : List (String × Node)

namespace Draft

def empty (origin : Origin) : Draft := ⟨origin, []⟩

def get? (draft : Draft) (name : String) : Option Node :=
  draft.entries.lookup name

def set (draft : Draft) (name : String) (node : Node) : Draft :=
  if (draft.get? name).isSome then
    { draft with entries := draft.entries.map fun entry =>
        if entry.1 = name then (name, node) else entry }
  else { draft with entries := draft.entries ++ [(name, node)] }

/-- Changes the table at a path. Missing tables on the way are made; of an array of tables the last
one is meant. A dotted key does not pass through a table that has its own header. -/
def alter (dotted : Bool) (change : Draft → Option Draft) : List String → Draft → Option Draft
  | [], draft => change draft
  | name :: path, draft =>
    match draft.get? name with
    | none => do
      let inner ← alter dotted change path (empty (if dotted then .dotted else .implied))
      return draft.set name (.table inner.origin inner.entries)
    | some (.table origin entries) =>
      if dotted && origin = .header then none
      else do
        let inner ← alter dotted change path ⟨origin, entries⟩
        return draft.set name (.table inner.origin inner.entries)
    | some (.tables items) => do
      let last ← items.getLast?
      let inner ← alter dotted change path ⟨.header, last⟩
      return draft.set name (.tables (items.dropLast ++ [inner.entries]))
    | some (.value _) => none

/-- Puts a value under a key that is dotted if it has a path. -/
def put (path : List String) (name : String) (value : Value) : Draft → Option Draft :=
  alter true (fun draft =>
    if (draft.origin == .dotted) == path.isEmpty then none
    else if (draft.get? name).isSome then none
    else some (draft.set name (.value value))) path

def openTable (path : List String) (name : String) : Draft → Option Draft :=
  alter false (fun draft =>
    match draft.get? name with
    | none => some (draft.set name (.table .header []))
    | some (.table .implied entries) => some (draft.set name (.table .header entries))
    | some _ => none) path

def openItem (path : List String) (name : String) : Draft → Option Draft :=
  alter false (fun draft =>
    match draft.get? name with
    | none => some (draft.set name (.tables [[]]))
    | some (.tables items) => some (draft.set name (.tables (items ++ [[]])))
    | some _ => none) path

def finish (draft : Draft) : Table :=
  Node.finishEntries draft.entries

end Draft

structure Key where
  path : List String
  name : String
deriving DecidableEq, Repr

def isKeyChar (c : Char) : Bool :=
  Quoted.isDigit 36 c || c = '_' || c = '-'

def simpleKey? (cs : List Char) : Option (String × List Char) :=
  match Quoted.quoted? cs with
  | some (name, rest) => some (.ofList name, rest)
  | none =>
    let name := cs.takeWhile isKeyChar
    if name.isEmpty then none else some (.ofList name, cs.drop name.length)

/-- A key of parts with dots between them; every part takes one of `steps`. -/
def key? : Nat → List Char → Option (Key × List Char)
  | 0, _ => none
  | steps + 1, cs => do
    let (name, rest) ← simpleKey? (skipSpace cs)
    match skipSpace rest with
    | '.' :: rest =>
      let (key, rest) ← key? steps rest
      return (⟨name :: key.path, key.name⟩, rest)
    | rest => return (⟨[], name⟩, rest)

def skipComment? : List Char → Option (List Char)
  | '#' :: cs =>
    let text := cs.takeWhile fun c => !isControl c
    some (cs.drop text.length)
  | cs => some cs

def depthLimit : Nat := 80

def skipLayout : Nat → List Char → List Char
  | 0, cs => cs
  | steps + 1, cs =>
    match skipSpace cs with
    | '#' :: rest => skipLayout steps (rest.dropWhile fun c => !isControl c)
    | rest =>
      match afterNewline? rest with
      | some rest => skipLayout steps rest
      | none => rest

mutual

/-- A value; every step takes a character, and every bracket one of `depth`. -/
def value? : Nat → Nat → List Char → Option (Value × List Char)
  | 0, _, _ => none
  | steps + 1, depth, cs =>
    match cs with
    | '[' :: cs =>
      match depth with
      | 0 => none
      | depth + 1 => (items? steps depth cs).map fun (items, rest) => (.array items, rest)
    | '\x7b' :: cs =>
      match depth with
      | 0 => none
      | depth + 1 =>
        (members? steps depth (Draft.empty .header) cs).map fun (draft, rest) =>
          (.table draft.finish, rest)
    | '"' :: _ | '\'' :: _ => (Quoted.string? cs).map fun (s, rest) => (.string (.ofList s), rest)
    | cs =>
      let (word, rest) := Word.split cs
      (Word.value? word).map (·, rest)

def items? : Nat → Nat → List Char → Option (List Value × List Char)
  | 0, _, _ => none
  | steps + 1, depth, cs =>
    match skipLayout (steps + 1) cs with
    | ']' :: rest => some ([], rest)
    | cs =>
      match value? steps depth cs with
      | none => none
      | some (item, cs) =>
        match skipLayout (steps + 1) cs with
        | ']' :: rest => some ([item], rest)
        | ',' :: rest => (items? steps depth rest).map fun (items, rest) => (item :: items, rest)
        | _ => none

def members? : Nat → Nat → Draft → List Char → Option (Draft × List Char)
  | 0, _, _, _ => none
  | steps + 1, depth, draft, cs =>
    match skipLayout (steps + 1) cs with
    | '\x7d' :: rest => some (draft, rest)
    | cs =>
      match key? (steps + 1) cs with
      | some (key, '=' :: cs) =>
        match value? steps depth (skipSpace cs) with
        | none => none
        | some (value, cs) =>
          match draft.put key.path key.name value with
          | none => none
          | some draft =>
            match skipLayout (steps + 1) cs with
            | '\x7d' :: rest => some (draft, rest)
            | ',' :: rest => members? steps depth draft rest
            | _ => none
      | _ => none

end

/-- What follows the line break that ends a statement; nothing after the last one. -/
def endOfLine? (cs : List Char) : Option (List Char) := do
  match ← skipComment? (skipSpace cs) with
  | [] => return []
  | rest => afterNewline? rest

/-- The open table and the document so far. -/
structure State where
  header : List String
  root : Draft

/-- One statement at the start of a line, and what follows its line. -/
def statement? (steps : Nat) (state : State) (cs : List Char) : Option (State × List Char) :=
  match skipSpace cs with
  | '[' :: '[' :: cs => do
    match ← key? steps cs with
    | (key, ']' :: ']' :: rest) =>
      return (⟨key.path ++ [key.name], ← state.root.openItem key.path key.name⟩, ← endOfLine? rest)
    | _ => none
  | '[' :: cs => do
    match ← key? steps cs with
    | (key, ']' :: rest) =>
      return (⟨key.path ++ [key.name], ← state.root.openTable key.path key.name⟩, ← endOfLine? rest)
    | _ => none
  | cs =>
    match endOfLine? cs with
    | some rest => some (state, rest)
    | none => do
      match ← key? steps cs with
      | (key, '=' :: cs) =>
        let (value, rest) ← value? steps depthLimit (skipSpace cs)
        let root ← state.root.alter false (Draft.put key.path key.name value) state.header
        return (⟨state.header, root⟩, ← endOfLine? rest)
      | _ => none

def statements? : Nat → State → List Char → Option Draft
  | _, state, [] => some state.root
  | 0, _, _ => none
  | steps + 1, state, cs => do
    let (state, rest) ← statement? (steps + 1) state cs
    statements? steps state rest

def parse? (text : String) : Option Table :=
  let cs := match text.toList with
    | '\uFEFF' :: cs => cs
    | cs => cs
  (statements? (2 * cs.length + 2) ⟨[], .empty .header⟩ cs).map Draft.finish

end Typesmith.Toml
