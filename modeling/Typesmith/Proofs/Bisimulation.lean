import Typesmith.Proofs.Resolution
import Typesmith.Proofs.Walk

/-! # Documents that look alike

What is reported of a service depends on its document only through shapes: the nodes that are left
when references are followed, down to the shapes of their properties and items. So two documents
give the same reports if some relation between their nodes keeps to shapes.
-/

namespace Typesmith

open Json (Value)
open OpenApi (Node Document)

namespace OpenApi

/-- Shapes differ at most in the nodes of their properties and items, which are related. -/
structure Node.Alike (R : Node → Node → Prop) (node other : Node) : Prop where
  kind : other.kind = node.kind
  format : other.format = node.format
  required : other.required = node.required
  bare : other.members.isEmpty = node.members.isEmpty
  properties : Parallel R node.properties.entries other.properties.entries
  items : Option.Rel R node.items other.items

theorem Node.Alike.refl {R : Node → Node → Prop} (same : ∀ node, R node node) (shape : Node) :
    shape.Alike R shape where
  kind := rfl
  format := rfl
  required := rfl
  bare := rfl
  properties := List.forall₂_same.mpr fun _ _ => ⟨rfl, same _⟩
  items := by
    cases shape.items with
    | none => exact .none
    | some item => exact .some (same item)

/-- Related nodes have shapes alike, and the same description; the types of the documents are
related by name. -/
structure Document.Bisimulation (document other : Document) (R : Node → Node → Prop) : Prop where
  types : Parallel R document.schemas.entries other.schemas.entries
  shapes : ∀ {node node'}, R node node' → (document.resolve node).Alike R (other.resolve node')
  description : ∀ {node node'}, R node node' →
    node'.description.or (other.resolve node').description =
      node.description.or (document.resolve node).description

end OpenApi

namespace Service

variable {service : Service} {document : Document} {R : Node → Node → Prop}
  {message name : String} {node other : Node} {required : Bool}

/-- Two searches fail alike, or find shapes alike. -/
def Found (R : Node → Node → Prop) (found found' : Except Error Node) : Prop :=
  (∃ error, found = .error error ∧ found' = .error error) ∨
    ∃ node other, node.Alike R other ∧ found = .ok node ∧ found' = .ok other

theorem nodeTag_congr (kind : other.kind = node.kind) (format : other.format = node.format) :
    { service with document }.nodeTag message name other = service.nodeTag message name node := by
  unfold nodeTag
  rw [kind, format]
  rfl

theorem walkLeaf_congr {tag : Tag} {location : String} {value : Value} :
    { service with document }.walkLeaf tag location value =
      service.walkLeaf tag location value := rfl

section

variable (same : service.document.Bisimulation document R)

include same

theorem found_typeSchema (type : String) :
    Found R (service.typeSchema type) ({ service with document }.typeSchema type) := by
  unfold typeSchema Dict.get?
  rcases same.types.lookup type with ⟨missing, missing'⟩ | ⟨node, other, related, found, found'⟩
  · rw [missing, missing']
    exact .inl ⟨_, rfl, rfl⟩
  · rw [found, found']
    exact .inr ⟨_, _, same.shapes related, rfl, rfl⟩

theorem found_messageNode {inline inline' : Option Node} (h : Option.Rel R inline inline') :
    Found R (service.messageNode message inline)
      ({ service with document }.messageNode message inline') := by
  cases h with
  | none => exact found_typeSchema same message
  | some related =>
    have alike := same.shapes related
    simp only [messageNode, Option.map_some, alike.bare]
    split
    · exact found_typeSchema same message
    · exact .inr ⟨_, _, alike, rfl, rfl⟩

theorem resolveNode_congr (h : R node other) :
    { service with document }.resolveNode message name other required =
      service.resolveNode message name node required := by
  have alike := same.shapes h
  rw [resolveNode_eq, resolveNode_eq, nodeTag_congr alike.kind alike.format, alike.format,
    same.description h]

theorem itemNode_congr {inline inline' : Option Node} (h : Option.Rel R inline inline') :
    Option.Rel R (service.itemNode inline) ({ service with document }.itemNode inline') := by
  cases h with
  | none => exact .none
  | some related => exact (same.shapes related).items

theorem walkMember_congr {location : String} {member : String × Value} (h : node.Alike R other)
    (value : ∀ {tag inline inline' location}, Option.Rel R inline inline' →
      { service with document }.walk tag inline' location member.2 =
        service.walk tag inline location member.2) :
    { service with document }.walkMember message other location member =
      service.walkMember message node location member := by
  unfold walkMember Dict.get? OpenApi.Node.isRequired
  rw [h.required]
  rcases h.properties.lookup member.1 with
    ⟨missing, missing'⟩ | ⟨property, property', related, found, found'⟩
  · rw [missing, missing']
  · simp only [found, found', resolveNode_congr same related, value (.some related)]

theorem walkObject_congr {location : String} {members : List (String × Value)}
    (h : node.Alike R other)
    (values : ∀ member ∈ members, ∀ {tag inline inline' location}, Option.Rel R inline inline' →
      { service with document }.walk tag inline' location member.2 =
        service.walk tag inline location member.2) :
    { service with document }.walkObject message other location members =
      service.walkObject message node location members := by
  rw [walkObject_eq, walkObject_eq]
  exact Report.each_congr fun member mem =>
    walkMember_congr same h (values member (mem_of_mem_byName mem))

theorem walk_congr {value : Value} : ∀ {tag inline inline' location}, Option.Rel R inline inline' →
    { service with document }.walk tag inline' location value =
      service.walk tag inline location value := by
  induction value using Value.induct with
  | null | bool | number | string =>
    intro tag inline inline' location h
    rw [walk_of_not_opens (by cases tag <;> rfl), walk_of_not_opens (by cases tag <;> rfl),
      walkLeaf_congr]
  | array items ih =>
    intro tag inline inline' location h
    cases tag with
    | array element =>
      rw [walk_array, walk_array]
      have each : Report.each items.zipIdx ({ service with document }.walkItem element
          ({ service with document }.itemNode inline') location) =
          Report.each items.zipIdx (service.walkItem element (service.itemNode inline) location) :=
        Report.each_congr fun item mem =>
          ih _ (List.fst_mem_of_mem_zipIdx mem) (itemNode_congr same h)
      rw [each]
    | _ =>
      rw [walk_of_not_opens rfl, walk_of_not_opens rfl, walkLeaf_congr]
  | object members ih =>
    intro tag inline inline' location h
    cases tag with
    | map key value =>
      rw [walk_map, walk_map]
      have each : Report.each (byName members)
          ({ service with document }.walkEntry key value location) =
          Report.each (byName members) (service.walkEntry key value location) := by
        refine Report.each_congr fun member mem => ?_
        simp only [walkEntry, walkLeaf_congr, ih member (mem_of_mem_byName mem) .none]
      rw [each]
    | message name =>
      rw [walk_message, walk_message]
      rcases found_messageNode same h with ⟨error, failed, failed'⟩ | ⟨node, other, alike, found, found'⟩
      · rw [failed, failed', Report.bind_lift_error, Report.bind_lift_error]
      · rw [found, found', Report.bind_lift_ok, Report.bind_lift_ok,
          walkObject_congr same alike ih]
    | json => rfl
    | _ =>
      rw [walk_of_not_opens rfl, walk_of_not_opens rfl, walkLeaf_congr]

theorem fields_congr (type : String) :
    { service with document }.fields type = service.fields type := by
  unfold fields
  rcases found_typeSchema same type with
    ⟨error, failed, failed'⟩ | ⟨node, other, alike, found, found'⟩
  · rw [failed, failed', Report.bind_lift_error, Report.bind_lift_error]
  · rw [found, found', Report.bind_lift_ok, Report.bind_lift_ok]
    refine Report.forEach_congr (alike.properties.map_eq fun name property property' related => ?_)
    have required : other.isRequired name = node.isRequired name :=
      congrArg (·.contains name) alike.required
    simp only [required, resolveNode_congr same related]

theorem schema_congr : { service with document }.schema = service.schema := by
  unfold schema Dict.keys
  simp only [same.types.names, fields_congr same]

theorem messageLiteral_congr (type : String) (attributes : List (String × Value)) :
    { service with document }.messageLiteral type attributes =
      service.messageLiteral type attributes := by
  unfold messageLiteral exampleFields
  rcases found_typeSchema same type with
    ⟨error, failed, failed'⟩ | ⟨node, other, alike, found, found'⟩
  · rw [failed, failed', Report.bind_lift_error, Report.bind_lift_error]
  · rw [found, found', Report.bind_lift_ok, Report.bind_lift_ok,
      walkObject_congr same alike fun member _ => walk_congr same]

end

end Service

end Typesmith
