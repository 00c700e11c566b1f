import Typesmith.Json.Decode

/-! # Schema nodes

A node describes a type or one of its properties: its shape, or a reference to the node that has it.
-/

namespace Typesmith.OpenApi

structure Node where
  kind : Option String := none
  format : Option String := none
  description : Option String := none
  /-- The properties as they are written. -/
  members : List (String × Node) := []
  items : Option Node := none
  required : List String := []
  reference : Option String := none
deriving Inhabited

namespace Node

def properties (node : Node) : Dict Node :=
  Dict.ofList node.members

def isRequired (node : Node) (field : String) : Bool :=
  node.required.contains field

open Json Tree

def memberNames : List String :=
  ["type", "format", "description", "properties", "items", "required", "$ref"]

def decode? : Nat → Tree → Option Node
  | 0, _ => none
  | depth + 1, tree => do
    match ← record? memberNames tree with
    | [kind, format, description, properties, items, required, reference] =>
      return {
        kind := ← optional? text? kind
        format := ← optional? text? format
        description := ← optional? text? description
        members := ← withDefault? [] (fun tree =>
          match depth with
          | 0 => none
          | depth + 1 => dictionary? (decode? depth) tree) properties
        items := ← optional? (decode? depth) items
        required := ← withDefault? [] (within? (fun _ => list? text?) depth) required
        reference := ← optional? text? reference }
    | _ => none

end Node

end Typesmith.OpenApi
