import Typesmith.Proofs.Carries

/-! # Literals and declarations

A message literal sets properties of the node that it was read by. Where that is the node of its
type, what it sets is declared; an inline node with other properties is not.
-/

namespace Typesmith

open Json (Value)
open OpenApi (Node)

namespace Service

variable (service : Service)

def memberNode (message : String) (node : Option Node) (name : String) : Option Node :=
  (service.messageNode message node).toOption.bind (·.properties.get? name)

/-- The messages in a literal at any depth, each with its inline node if there is one. -/
inductive Within : Option Node → Literal → Option Node → String → List (String × Literal) → Prop

  | here {node name fields} : Within node (.message name fields) node name fields

  | item {node element items item inline name fields} : item ∈ items →
      Within (service.itemNode node) item inline name fields →
      Within node (.list element items) inline name fields

  | entry {node key value entries entry inline name fields} : entry ∈ entries →
      Within none entry.2 inline name fields →
      Within node (.map key value entries) inline name fields

  | field {node message others part inline name fields} : part ∈ others →
      Within (service.memberNode message node part.1) part.2 inline name fields →
      Within node (.message message others) inline name fields

def Fits (tag : Tag) (literal : Literal) : Prop :=
  ∃ node value, service.Carries tag node value literal

/-- All fields of a literal are properties of a node that is read as a message, and each fits the
tag that its property resolves to. -/
def Sets (shape : Node) (name : String) (fields : List (String × Literal)) : Prop :=
  ∀ part ∈ fields, ∃ property field, shape.properties.get? part.1 = some property ∧
    (service.resolveNode name part.1 property (shape.isRequired part.1)).outcome = .ok field ∧
    service.Fits field.tag part.2

/-- The type of a message declares all fields of a literal, with tags that they fit. -/
def Declares (name : String) (fields : List (String × Literal)) : Prop :=
  service.document.schemas.contains name = true ∧
    ∃ all, (service.fields name).outcome = .ok all ∧
      ∀ part ∈ fields, ∃ field ∈ all, field.name = part.1 ∧ service.Fits field.tag part.2

variable {service} {tag : Tag} {node inline : Option Node} {value : Value} {literal : Literal}
  {name : String} {fields : List (String × Literal)}

theorem Within.carries (within : service.Within node literal inline name fields)
    (h : service.Carries tag node value literal) :
    ∃ members, service.Carries (.message name) inline (.object members) (.message name fields) := by
  induction within generalizing tag value with
  | here =>
    cases h with
    | message kept found sub increasing properties resolved carries =>
      exact ⟨_, .message kept found sub increasing properties resolved carries⟩
  | item mem _ ih =>
    cases h with
    | list kept sub carries =>
      obtain ⟨part, kept_mem, rfl⟩ := List.mem_map.mp mem
      exact ih (carries part kept_mem)
  | entry mem _ ih =>
    cases h with
    | map kept sub keys carries =>
      obtain ⟨part, kept_mem, rfl⟩ := List.mem_map.mp mem
      exact ih (carries part kept_mem)
  | @field node message _ _ _ _ _ mem _ ih =>
    cases h with
    | message kept found sub increasing properties resolved carries =>
      obtain ⟨part, kept_mem, rfl⟩ := List.mem_map.mp mem
      have same : service.memberNode message node part.name = some part.property := by
        simp only [memberNode, found, Except.toOption, Option.bind_some, properties part kept_mem]
      exact ih (same ▸ carries part kept_mem)

theorem Within.exists_node (within : service.Within node literal inline name fields)
    (h : service.Carries tag node value literal) :
    ∃ shape, service.messageNode name inline = .ok shape ∧ service.Sets shape name fields := by
  obtain ⟨members, carries⟩ := within.carries h
  cases carries with
  | message kept found sub increasing properties resolved carries =>
    refine ⟨_, found, fun part mem => ?_⟩
    obtain ⟨part, kept_mem, rfl⟩ := List.mem_map.mp mem
    exact ⟨part.property, part.field, properties part kept_mem, resolved part kept_mem,
      _, _, carries part kept_mem⟩

theorem resolve_eq {type field : String} {parent property : Node}
    (found : service.typeSchema type = .ok parent)
    (offered : parent.properties.get? field = some property) :
    (service.resolve type field).outcome =
      (service.resolveNode type field property (parent.isRequired field)).outcome := by
  rw [resolve, Report.bind_of_ok (by rw [found]; rfl)]
  simp only [offered]

theorem mem_fields_of_resolved {type name : String} {parent property : Node} {field : Field}
    {all : List Field} (found : service.typeSchema type = .ok parent)
    (offered : parent.properties.get? name = some property)
    (resolved : (service.resolveNode type name property (parent.isRequired name)).outcome =
      .ok field)
    (h : (service.fields type).outcome = .ok all) : field ∈ all := by
  obtain ⟨node, same, h⟩ := Report.outcome_bind_eq_ok_iff.mp h
  obtain rfl : parent = node := Except.ok.inj (found.symm.trans same)
  exact Report.mem_of_forEach h (Dict.mem_entries_of_get? offered) resolved

/-- What a message sets is declared if it is read by the node of its type, and all fields of the
type resolve. Otherwise each field is still a property of the node that the message is read by. -/
theorem messageLiteral_declares {type : String} {attributes : List (String × Value)}
    (h : (service.messageLiteral type attributes).outcome = .ok literal)
    (within : service.Within none literal inline name fields) :
    ∃ shape, service.messageNode name inline = .ok shape ∧ service.Sets shape name fields ∧
      ((∀ node ∈ inline, service.StandsFor node name) →
        service.document.schemas.contains name = true ∧
        (∀ part ∈ fields, ∃ field, (service.resolve name part.1).outcome = .ok field ∧
          service.Fits field.tag part.2) ∧
        ((service.fields name).Succeeds → service.Declares name fields)) := by
  have known : service.Knows (.message type) := trivial
  have carries := carries_of_walk known (congrArg Report.outcome (walk_of_messageLiteral h))
  obtain ⟨shape, found, sets⟩ := within.exists_node carries
  refine ⟨shape, found, sets, fun stands => ?_⟩
  rw [messageNode_eq_typeSchema stands] at found
  have component := contains_of_typeSchema found
  refine ⟨component, fun part mem => ?_, fun ⟨all, h⟩ => ⟨component, all, h, fun part mem => ?_⟩⟩
  · obtain ⟨property, field, offered, resolved, fits⟩ := sets part mem
    exact ⟨field, (resolve_eq found offered).trans resolved, fits⟩
  · obtain ⟨property, field, offered, resolved, fits⟩ := sets part mem
    have declared := mem_fields_of_resolved found offered resolved h
    exact ⟨field, declared, name_of_resolveNode resolved, fits⟩

set_option maxRecDepth 8000 in
theorem notes_declares :
    (notes.messageLiteral "Note" noteAttributes).outcome = .ok noteLiteral ∧
      notes.Within none noteLiteral (notes.memberNode "Note" none "parent") "Note" parentFields ∧
      ∃ shape, notes.messageNode "Note" (notes.memberNode "Note" none "parent") = .ok shape ∧
        notes.Sets shape "Note" parentFields ∧ notes.Declares "Note" parentFields := by
  have h : (notes.messageLiteral "Note" noteAttributes).outcome = .ok noteLiteral := rfl
  have within : notes.Within none noteLiteral (notes.memberNode "Note" none "parent") "Note"
      parentFields := .field (.tail _ (.head _)) .here
  have stands : ∀ node ∈ notes.memberNode "Note" none "parent", notes.StandsFor node "Note" := by
    rintro _ ⟨⟩
    exact .inr rfl
  have resolves : (notes.fields "Note").Succeeds := ⟨_, rfl⟩
  obtain ⟨shape, found, sets, declares⟩ := messageLiteral_declares h within
  exact ⟨h, within, shape, found, sets, (declares stands).2.2 resolves⟩

def shop : Service where
  name := "shop"
  document := {
    schemas := .ofList [
      ("Buyer", { kind := some "object", members := [("name", { kind := some "string" })] }),
      ("Order", {
        kind := some "object"
        members := [
          ("buyer", { kind := some "object", members := [("nick", { kind := some "string" })] }),
          ("gift", { kind := some "object", members := [("note", { kind := some "string" })] }),
          ("lines", { kind := some "array" })] })] }
  descriptors := {
    package := "shop"
    pool := {
      messages := [
        { fullName := "shop.Order"
          fields := [
            ⟨"buyer", "buyer", 1, .message "shop.Buyer", false, none, none⟩,
            ⟨"gift", "gift", 2, .message "shop.Gift", false, none, none⟩]
          isMapEntry := false },
        { fullName := "shop.Buyer"
          fields := [
            ⟨"name", "name", 1, .scalar .string, false, none, none⟩,
            ⟨"nick", "nick", 2, .scalar .string, false, none, none⟩]
          isMapEntry := false },
        { fullName := "shop.Gift"
          fields := [⟨"note", "note", 1, .scalar .string, false, none, none⟩]
          isMapEntry := false }] } }
  dynamicTypes := []

def orderAttributes : List (String × Value) := [
  ("buyer", .object [("nick", .string "a")]),
  ("gift", .object [("note", .string "b")])]

def orderLiteral : Literal :=
  .message "Order" [
    ("buyer", .message "Buyer" [("nick", .string "a")]),
    ("gift", .message "Gift" [("note", .string "b")])]

set_option maxRecDepth 8000 in
/-- A literal may set what its type does not declare, or have no type, or one with a field that
does not resolve. -/
theorem orderLiteral_undeclared :
    (shop.messageLiteral "Order" orderAttributes).outcome = .ok orderLiteral ∧
      (shop.Within none orderLiteral (shop.memberNode "Order" none "buyer") "Buyer"
          [("nick", .string "a")] ∧ ¬ shop.Declares "Buyer" [("nick", .string "a")]) ∧
      (shop.Within none orderLiteral (shop.memberNode "Order" none "gift") "Gift"
          [("note", .string "b")] ∧ shop.document.schemas.contains "Gift" = false) ∧
      (shop.fields "Order").outcome = .error (.fieldNotFound "shop" "Order" "lines") := by
  refine ⟨rfl, ⟨.field (.head _) .here, ?_⟩, ⟨.field (.tail _ (.head _)) .here, rfl⟩, rfl⟩
  rintro ⟨-, all, h, declared⟩
  obtain rfl : all = [{ name := "name", tag := .scalar .string }] := (Except.ok.inj h).symm
  obtain ⟨field, mem, named, -⟩ := declared _ (.head _)
  obtain rfl := List.mem_singleton.mp mem
  simp at named

end Service

end Typesmith
