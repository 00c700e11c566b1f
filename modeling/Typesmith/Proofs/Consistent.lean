import Typesmith.Proofs.Carries
import Typesmith.Generator

/-! # Consistent services

On a consistent service every message that a walk comes to is read by the node of its type. The
fields of all types resolve, so no example makes a walk fail.
-/

namespace Typesmith

open Json (Value)
open OpenApi (Node)

def Tag.messages : Tag → List String
  | message name => [name]
  | array element => element.messages
  | map key value => key.messages ++ value.messages
  | _ => []

namespace Service

variable (service : Service)

def HasField (type : String) (property : Node) (field : Field) : Prop :=
  ∃ node, service.typeSchema type = .ok node ∧
    node.properties.get? field.name = some property ∧
    (service.resolveNode type field.name property (node.isRequired field.name)).outcome = .ok field

/-- All types resolve, all messages are types, and no nested node says otherwise. -/
structure Consistent : Prop where
  schema : service.schema.Succeeds
  declared {type property field} : service.HasField type property field →
    ∀ message ∈ field.tag.messages, service.document.schemas.contains message = true
  property {type property field message} : service.HasField type property field →
    field.tag = .message message → service.StandsFor property message
  items {type property field message} : service.HasField type property field →
    field.tag = .array (.message message) →
      ∀ item ∈ (service.document.resolve property).items, service.StandsFor item message

/-- A walk comes to messages by the nodes of their types only. -/
def Settled : Tag → Option Node → Prop
  | .message name, node =>
    ∃ inner, service.typeSchema name = .ok inner ∧ service.messageNode name node = .ok inner
  | .array element, node => Settled element (service.itemNode node)
  | .map _ value, _ => Settled value none
  | _, _ => True

variable {service} {tag : Tag} {node : Option Node} {location : String}

theorem settled_message {message : String}
    (declared : service.document.schemas.contains message = true)
    (stands : ∀ inline ∈ node, service.StandsFor inline message) :
    service.Settled (.message message) node := by
  obtain ⟨inner, found⟩ := typeSchema_of_contains declared
  exact ⟨inner, found, (messageNode_eq_typeSchema stands).trans found⟩

theorem Consistent.settled (consistent : service.Consistent) {type : String} {property : Node}
    {field : Field} (h : service.HasField type property field) :
    service.Settled field.tag (some property) := by
  obtain ⟨parent, found, offered, resolved⟩ := h
  have h : service.HasField type property field := ⟨parent, found, offered, resolved⟩
  have flat := elements_of_nodeTag (nodeTag_of_resolveNode resolved)
  have declared := consistent.declared h
  cases eq : field.tag with
  | message name =>
    rw [eq] at declared
    refine settled_message (declared name List.mem_cons_self) ?_
    rintro _ ⟨⟩
    exact consistent.property h eq
  | array element =>
    rw [eq] at declared flat
    have plain := flat element List.mem_cons_self
    cases element with
    | message name =>
      exact settled_message (declared name List.mem_cons_self) (consistent.items h eq)
    | array | map => simp [Tag.elements] at plain
    | _ => trivial
  | map key value =>
    rw [eq] at declared flat
    have plain := flat value (by simp [Tag.elements])
    cases value with
    | message name =>
      exact settled_message (declared name (by simp [Tag.messages])) (by simp)
    | array | map => simp [Tag.elements] at plain
    | _ => trivial
  | _ => trivial

theorem Consistent.exists_field (consistent : service.Consistent) {type name : String}
    {node property : Node} (found : service.typeSchema type = .ok node)
    (offered : node.properties.get? name = some property) :
    ∃ field, (service.resolveNode type name property (node.isRequired name)).outcome = .ok field ∧
      service.HasField type property field := by
  have types := Report.succeeds_forEach_iff.mp (Report.succeeds_return_iff.mp consistent.schema)
  have known := Dict.mem_keys_of_contains (contains_of_typeSchema found)
  have fields := Report.succeeds_return_iff.mp (types type known)
  obtain ⟨parent, same, fields⟩ := Report.succeeds_bind_iff.mp fields
  obtain rfl : node = parent := Except.ok.inj (found.symm.trans same)
  obtain ⟨field, resolved⟩ := Report.succeeds_forEach_iff.mp fields _
    (Dict.mem_entries_of_get? offered)
  have named := name_of_resolveNode resolved
  refine ⟨field, resolved, node, found, ?_, ?_⟩
  · rwa [named]
  · rwa [named]

theorem walk_leaf_succeeds {value : Value} (leaf : tag.opens value = false) :
    (service.walk tag node location value).Succeeds := by
  rw [walk_of_not_opens leaf]
  exact ⟨_, outcome_walkLeaf⟩

theorem walkEntry_succeeds {key value : Tag} {entry : String × Value}
    (part : ∀ {location}, (service.walk value none location entry.2).Succeeds) :
    (service.walkEntry key value location entry).Succeeds := by
  cases accepted : service.leaf? key (mapKey key entry.1) with
  | none =>
    rw [walkEntry_of_none accepted, Report.succeeds_bind_of_ok outcome_walkLeaf]
    exact Report.succeeds_pure
  | some keyLiteral =>
    rw [walkEntry_of_some accepted, Report.succeeds_return_map]
    exact part

theorem Consistent.walkMember_succeeds (consistent : service.Consistent) {type : String}
    {inner : Node} {member : String × Value} (found : service.typeSchema type = .ok inner)
    (part : ∀ {tag node location}, service.Settled tag node →
      (service.walk tag node location member.2).Succeeds) :
    (service.walkMember type inner location member).Succeeds := by
  unfold walkMember
  split
  · exact Report.succeeds_pure
  · next property offered =>
    obtain ⟨field, resolved, declared⟩ := consistent.exists_field found offered
    rw [Report.succeeds_bind_of_ok resolved, Report.succeeds_return_map]
    exact part (consistent.settled declared)

theorem Consistent.walk_succeeds (consistent : service.Consistent) (value : Value) :
    ∀ {tag node location}, service.Settled tag node →
      (service.walk tag node location value).Succeeds := by
  induction value using Value.induct with
  | null | bool | number | string =>
    intro tag node location _
    exact walk_leaf_succeeds (by cases tag <;> rfl)
  | array items ih =>
    intro tag node location settled
    cases tag with
    | array element =>
      rw [walk_array, Report.succeeds_return_iff, Report.succeeds_each_iff]
      intro item mem
      exact ih item.1 (List.fst_mem_of_mem_zipIdx mem) settled
    | _ => exact walk_leaf_succeeds rfl
  | object members ih =>
    intro tag node location settled
    cases tag with
    | map key value =>
      rw [walk_map, Report.succeeds_return_iff, Report.succeeds_each_iff]
      intro entry mem
      exact walkEntry_succeeds (ih entry (mem_of_mem_byName mem) settled)
    | message name =>
      obtain ⟨inner, found, same⟩ := settled
      rw [walk_message_of_node same, Report.succeeds_return_iff, Report.succeeds_each_iff]
      intro member mem
      exact consistent.walkMember_succeeds found (ih member (mem_of_mem_byName mem))
    | json =>
      simp only [walk]
      exact Report.succeeds_pure
    | _ => exact walk_leaf_succeeds rfl

/-- No example of a type makes a consistent service fail. -/
theorem Consistent.messageLiteral_succeeds (consistent : service.Consistent) {type : String}
    (component : service.document.schemas.contains type = true)
    (attributes : List (String × Value)) :
    (service.messageLiteral type attributes).Succeeds ∧
      ∀ target : Target, (target.render service type attributes).Succeeds := by
  have settled : service.Settled (.message type) none := settled_message component (by simp)
  have walked : (service.walk (.message type) none type (.object attributes)).Succeeds :=
    consistent.walk_succeeds (.object attributes) settled
  rw [walk_messageLiteral, Report.succeeds_return_iff] at walked
  have fields : (service.exampleFields type attributes).Succeeds :=
    Report.succeeds_return_iff.mp walked
  exact ⟨walked, fun target => Report.succeeds_return_iff.mpr fields⟩

set_option maxRecDepth 8000 in
theorem notes_fields {type : String} {property : Node} {field : Field}
    (h : notes.HasField type property field) :
    (field.tag = .message "Note" ∧ notes.document.resolve property = noteNode) ∨
      field.tag.messages = [] := by
  obtain ⟨node, found, offered, resolved⟩ := h
  have known := Dict.mem_keys_of_contains (contains_of_typeSchema found)
  obtain rfl : type = "Note" := List.mem_singleton.mp known
  obtain rfl : node = noteNode := (Except.ok.inj found).symm
  have entries : noteNode.properties.entries = noteNode.members := rfl
  have mem := Dict.mem_entries_of_get? offered
  have tag := nodeTag_of_resolveNode resolved
  rw [entries] at mem
  generalize field.name = name, field.tag = found at *
  simp only [noteNode, List.mem_cons, Prod.mk.injEq, List.not_mem_nil, or_false] at mem
  rcases mem with ⟨rfl, rfl⟩ | ⟨rfl, rfl⟩ | ⟨rfl, rfl⟩ | ⟨rfl, rfl⟩
  · obtain rfl : found = .scalar .int64 := (Except.ok.inj tag).symm
    exact .inr rfl
  · obtain rfl : found = .message "Note" := (Except.ok.inj tag).symm
    exact .inl ⟨rfl, rfl⟩
  · obtain rfl : found = .map (.scalar .int32) (.enum "Rating") := (Except.ok.inj tag).symm
    exact .inr rfl
  · obtain rfl : found = .array (.scalar .string) := (Except.ok.inj tag).symm
    exact .inr rfl

set_option maxRecDepth 8000 in
theorem notes_consistent : notes.Consistent where
  schema := ⟨_, rfl⟩
  declared h message mem := by
    rcases notes_fields h with ⟨tag, -⟩ | empty
    · rw [tag] at mem
      obtain rfl : message = "Note" := List.mem_singleton.mp mem
      rfl
    · simp [empty] at mem
  property h tag := by
    rcases notes_fields h with ⟨tag', same⟩ | empty
    · rw [tag] at tag'
      cases tag'
      rw [StandsFor, same]
      exact .inr rfl
    · simp [tag, Tag.messages] at empty
  items h tag := by
    rcases notes_fields h with ⟨tag', same⟩ | empty
    · rw [tag] at tag'
      cases tag'
    · simp [tag, Tag.messages] at empty

theorem notes_messageLiteral_succeeds :
    notes.Consistent ∧ notes.document.schemas.contains "Note" = true ∧
      (notes.messageLiteral "Note" noteAttributes).Succeeds ∧
      ∀ target : Target, (target.render notes "Note" noteAttributes).Succeeds :=
  have component : notes.document.schemas.contains "Note" = true := rfl
  ⟨notes_consistent, component, notes_consistent.messageLiteral_succeeds component noteAttributes⟩

end Service

end Typesmith
