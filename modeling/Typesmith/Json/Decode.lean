import Typesmith.Json.Tree

/-! # Reading trees as data

Arrays and objects may be nested to a given depth. A record is an object with some known members,
each at most once and the others ignored, or the array of its first members in order.
-/

namespace Typesmith.Json

/-- The greatest depth of nesting. -/
def depthLimit : Nat := 127

namespace Tree

mutual

def value? (depth : Nat) : Tree → Option Value
  | null => some .null
  | bool b => some (.bool b)
  | number n => n.map .number
  | string s => s.map .string
  | array items =>
    match depth with
    | 0 => none
    | depth + 1 => (values? depth items).map .array
  | object members =>
    match depth with
    | 0 => none
    | depth + 1 => (memberValues? depth members).map .object

def values? (depth : Nat) : List Tree → Option (List Value)
  | [] => some []
  | item :: rest =>
    match item.value? depth, values? depth rest with
    | some value, some values => some (value :: values)
    | _, _ => none

def memberValues? (depth : Nat) : List (Option String × Tree) → Option (List (String × Value))
  | [] => some []
  | (name, tree) :: rest =>
    match name, tree.value? depth, memberValues? depth rest with
    | some name, some value, some members => some ((name, value) :: members)
    | _, _, _ => none

end

def text? : Tree → Option String
  | string s => s
  | _ => none

def bool? : Tree → Option Bool
  | bool b => some b
  | _ => none

def list? {α : Type} (decode : Tree → Option α) : Tree → Option (List α)
  | array items => items.mapM decode
  | _ => none

def dictionary? {α : Type} (decode : Tree → Option α) : Tree → Option (List (String × α))
  | object members => members.mapM fun (name, tree) => do return (← name, ← decode tree)
  | _ => none

/-- Goes one level down, if the depth allows. -/
def within? {α : Type} (decode : Nat → Tree → Option α) : Nat → Tree → Option α
  | 0, _ => none
  | depth + 1, tree => decode depth tree

/-- The members of a record by position, none for one that is left out. -/
def record? (names : List String) : Tree → Option (List (Option Tree))
  | array items =>
    if items.length ≤ names.length then
      some (items.map some ++ List.replicate (names.length - items.length) none)
    else none
  | object members =>
    if members.any (·.1.isNone) then none
    else names.mapM fun name =>
      match members.filter (·.1 == some name) with
      | [] => some none
      | [(_, tree)] => some (some tree)
      | _ => none
  | _ => none

/-- A member that may be left out or null. -/
def optional? {α : Type} (decode : Tree → Option α) : Option Tree → Option (Option α)
  | none | some null => some none
  | some tree => (decode tree).map some

def withDefault? {α : Type} (default : α) (decode : Tree → Option α) : Option Tree → Option α
  | none => some default
  | some tree => decode tree

end Tree

namespace Value

def parse? (text : String) : Option Value :=
  (Tree.parse? text).bind (Tree.value? depthLimit)

def parseObject? (text : String) : Option (List (String × Value)) :=
  match parse? text with
  | some (object members) => some members
  | _ => none

end Value

end Typesmith.Json
