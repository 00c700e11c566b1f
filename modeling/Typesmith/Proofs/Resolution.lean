import Typesmith.Proofs.Report
import Typesmith.Resolution

/-! # What fields resolve to

Collections and objects have the tag of their descriptor, other nodes a tag of their own. The tag of
a field names only enums that are declared, as the descriptors of a service are closed, and its
collections are not nested. A nested message is read by the node of its type, unless its own
node has properties.
-/

namespace Typesmith

open OpenApi (Node)

theorem ScalarKind.ne_number_of_ofFormat? {format : String} {kind : ScalarKind}
    (h : ofFormat? format = some kind) : kind ≠ .number := by
  rintro rfl
  unfold ofFormat? at h
  split at h <;> cases h

namespace OpenApi.Node

def IsStructured (node : Node) : Prop :=
  node.kind = some "array" ∨ node.kind = some "object"

def plainTag (node : Node) : Tag :=
  match node.kind with
  | some "string" => .scalar .string
  | some "boolean" => .scalar .bool
  | some "number" | some "integer" =>
    .scalar ((node.format.bind ScalarKind.ofFormat?).getD .number)
  | _ => .any

theorem plainTag_cases (node : Node) :
    (∃ kind, node.plainTag = .scalar kind) ∨ node.plainTag = .any := by
  unfold plainTag
  split
  · exact .inl ⟨_, rfl⟩
  · exact .inl ⟨_, rfl⟩
  · exact .inl ⟨_, rfl⟩
  · exact .inl ⟨_, rfl⟩
  · exact .inr rfl

end OpenApi.Node

namespace Service

variable {service : Service} {tag : Tag}

section

variable {message name : String} {node shape : Node} {required : Bool}

theorem formatTag_eq {format : Option String} {location other : String} :
    (match format.bind ScalarKind.ofFormat? with
      | some kind => pure (.scalar kind)
      | none => do
        Report.warn (.unsupportedFormat location (format.getD ""))
        return .scalar .number : Report Tag) =
      ⟨.ok (.scalar ((format.bind ScalarKind.ofFormat?).getD .number)),
        if Tag.scalar ((format.bind ScalarKind.ofFormat?).getD .number) = .scalar .number then
          [.unsupportedFormat location (format.getD "")]
        else if Tag.scalar ((format.bind ScalarKind.ofFormat?).getD .number) = .any then
          [.unsupportedFormat location other]
        else []⟩ := by
  cases known : format.bind ScalarKind.ofFormat? with
  | none => rfl
  | some kind =>
    obtain ⟨name, -, hf⟩ := Option.bind_eq_some_iff.mp known
    simp only [Option.getD_some, Tag.scalar.injEq, ScalarKind.ne_number_of_ofFormat? hf,
      reduceCtorEq, if_false]
    rfl

theorem nodeTag_of_plain (plain : ¬ shape.IsStructured) :
    service.nodeTag message name shape =
      ⟨.ok shape.plainTag,
        if shape.plainTag = .scalar .number then
          [.unsupportedFormat (service.location message name) (shape.format.getD "")]
        else if shape.plainTag = .any then
          [.unsupportedFormat (service.location message name) (shape.kind.getD "")]
        else []⟩ := by
  unfold nodeTag
  split
  · next text =>
    have string : shape.plainTag = .scalar .string := by simp only [OpenApi.Node.plainTag, text]
    rw [string]
    rfl
  · next truth =>
    have bool : shape.plainTag = .scalar .bool := by simp only [OpenApi.Node.plainTag, truth]
    rw [bool]
    rfl
  · next number =>
    simp only [OpenApi.Node.plainTag, number]
    exact formatTag_eq
  · next integer =>
    simp only [OpenApi.Node.plainTag, integer]
    exact formatTag_eq
  · next array => exact absurd (.inl array) plain
  · next object => exact absurd (.inr object) plain
  · next text truth number integer _ _ =>
    have any : shape.plainTag = .any := by
      unfold OpenApi.Node.plainTag
      split
      · contradiction
      · contradiction
      · contradiction
      · contradiction
      · rfl
    rw [any]
    rfl

def structuredTag (service : Service) (kind : Option String)
    (descriptor : Proto.FieldDescriptor) : Tag :=
  if kind = some "array" then .array (service.kindTag descriptor.kind)
  else service.objectTag descriptor

theorem nodeTag_of_structured (structured : shape.IsStructured) :
    service.nodeTag message name shape =
      ⟨(service.fieldDescriptor message name).map (service.structuredTag shape.kind), []⟩ := by
  unfold nodeTag
  rcases structured with array | object
  · rw [array]
    exact Report.return_eq
  · rw [object]
    exact Report.return_eq

theorem outcome_nodeTag_eq_ok_iff :
    (service.nodeTag message name shape).outcome = .ok tag ↔
      (¬ shape.IsStructured ∧ tag = shape.plainTag) ∨
        (shape.IsStructured ∧ ∃ descriptor, service.fieldDescriptor message name = .ok descriptor ∧
          tag = service.structuredTag shape.kind descriptor) := by
  by_cases structured : shape.IsStructured
  · rw [nodeTag_of_structured structured]
    cases service.fieldDescriptor message name <;> simp [structured, Except.map, eq_comm]
  · simp [nodeTag_of_plain structured, structured, eq_comm]

theorem resolveNode_eq :
    service.resolveNode message name node required =
      ⟨(service.nodeTag message name (service.document.resolve node)).outcome.map fun tag => {
          name, tag, required
          description := node.description.or (service.document.resolve node).description
          format := (service.document.resolve node).format },
        (service.nodeTag message name (service.document.resolve node)).warnings⟩ :=
  Report.return_eq

end

/-- The enums that a tag names are declared. -/
def Knows (service : Service) : Tag → Prop
  | .enum name => ∃ descriptor, service.descriptors.enum? name = some descriptor
  | .array element => Knows service element
  | .map key value => Knows service key ∧ Knows service value
  | _ => True

theorem enum?_of_holds {descriptors : Proto.Descriptors} {name : String}
    (h : descriptors.pool.Holds (.enum name)) :
    ∃ descriptor, descriptors.enum? (Proto.shortName name) = some descriptor := by
  obtain ⟨enum, mem, rfl⟩ := h
  rw [← Option.isSome_iff_exists, Proto.Descriptors.enum?, Option.isSome_or, Bool.or_eq_true]
  exact .inr (List.find?_isSome.mpr ⟨enum, mem, by simp⟩)

theorem knows_kindTag {kind : Proto.Kind} (h : service.descriptors.pool.Holds kind) :
    service.Knows (service.kindTag kind) := by
  cases kind with
  | scalar => trivial
  | message name => simp only [kindTag]; split <;> trivial
  | enum name => exact enum?_of_holds h

theorem fieldDescriptor_eq_ok_iff {message field : String}
    {descriptor : Proto.FieldDescriptor} :
    service.fieldDescriptor message field = .ok descriptor ↔
      service.descriptors.field? message field = some descriptor := by
  unfold fieldDescriptor
  split
  · next found => simp [found]
  · next missing => simp [missing]

theorem mem_fields_of_field? {descriptors : Proto.Descriptors} {message field : String}
    {descriptor : Proto.FieldDescriptor} (h : descriptors.field? message field = some descriptor) :
    ∃ found ∈ descriptors.pool.messages, descriptor ∈ found.fields := by
  obtain ⟨found, hm, hf⟩ := Option.bind_eq_some_iff.mp h
  refine ⟨found, ?_, ?_⟩
  · rcases Option.or_eq_some_iff.mp hm with hm | ⟨-, hm⟩
    · exact List.mem_of_find?_eq_some hm
    · exact List.mem_of_find?_eq_some hm
  · rcases Option.or_eq_some_iff.mp hf with hf | ⟨-, hf⟩
    · exact List.mem_of_find?_eq_some hf
    · exact List.mem_of_find?_eq_some hf

theorem knows_objectTag {descriptor : Proto.FieldDescriptor}
    (holds : service.descriptors.pool.Holds descriptor.kind)
    (entry : ∀ entry ∈ descriptor.mapEntry, service.descriptors.pool.Holds entry.1 ∧
      service.descriptors.pool.Holds entry.2) :
    service.Knows (service.objectTag descriptor) := by
  unfold objectTag
  split
  · next eq =>
    obtain ⟨key, value⟩ := entry _ eq
    exact ⟨knows_kindTag key, knows_kindTag value⟩
  · trivial
  · exact knows_kindTag holds

theorem nodeTag_cases {message field : String} {shape : Node}
    (h : (service.nodeTag message field shape).outcome = .ok tag) :
    (∃ kind, tag = .scalar kind) ∨ tag = .any ∨
      ∃ descriptor, service.fieldDescriptor message field = .ok descriptor ∧
        (tag = .array (service.kindTag descriptor.kind) ∨ tag = service.objectTag descriptor) := by
  rcases outcome_nodeTag_eq_ok_iff.mp h with ⟨-, rfl⟩ | ⟨-, descriptor, found, rfl⟩
  · rcases shape.plainTag_cases with scalar | any
    · exact .inl scalar
    · exact .inr (.inl any)
  · refine .inr (.inr ⟨descriptor, found, ?_⟩)
    unfold structuredTag
    split
    · exact .inl rfl
    · exact .inr rfl

theorem knows_of_nodeTag {message field : String} {shape : Node}
    (h : (service.nodeTag message field shape).outcome = .ok tag) : service.Knows tag := by
  rcases nodeTag_cases h with ⟨kind, rfl⟩ | rfl | ⟨descriptor, found, tags⟩
  · trivial
  · trivial
  · obtain ⟨message, hm, hf⟩ := mem_fields_of_field? (fieldDescriptor_eq_ok_iff.mp found)
    obtain ⟨holds, entry⟩ := service.descriptors.closed message hm descriptor hf
    rcases tags with rfl | rfl
    · exact knows_kindTag holds
    · exact knows_objectTag holds entry

theorem elements_kindTag (kind : Proto.Kind) : (service.kindTag kind).elements = [] := by
  cases kind with
  | message name => simp only [kindTag]; split <;> rfl
  | _ => rfl

theorem elements_of_nodeTag {message field : String} {shape : Node}
    (h : (service.nodeTag message field shape).outcome = .ok tag) :
    ∀ element ∈ tag.elements, element.elements = [] := by
  rcases nodeTag_cases h with ⟨kind, rfl⟩ | rfl | ⟨descriptor, -, rfl | rfl⟩
  · simp [Tag.elements]
  · simp [Tag.elements]
  · intro element mem
    obtain rfl : element = _ := List.mem_singleton.mp mem
    exact elements_kindTag _
  · unfold objectTag
    split
    · intro element mem
      rcases List.mem_cons.mp mem with rfl | mem
      · exact elements_kindTag _
      · obtain rfl : element = _ := List.mem_singleton.mp mem
        exact elements_kindTag _
    · simp [Tag.elements]
    · simp [elements_kindTag]

theorem nodeTag_of_resolveNode {message name : String} {property : Node} {required : Bool}
    {field : Field} (h : (service.resolveNode message name property required).outcome = .ok field) :
    (service.nodeTag message name (service.document.resolve property)).outcome = .ok field.tag := by
  obtain ⟨tag, ht, h⟩ := Report.outcome_bind_eq_ok_iff.mp h
  cases h
  exact ht

theorem name_of_resolveNode {message name : String} {property : Node} {required : Bool}
    {field : Field} (h : (service.resolveNode message name property required).outcome = .ok field) :
    field.name = name := by
  obtain ⟨tag, -, h⟩ := Report.outcome_bind_eq_ok_iff.mp h
  cases h
  rfl

/-- A node may stand for a message if it has no properties, or is the node of the type itself. -/
def StandsFor (service : Service) (node : Node) (message : String) : Prop :=
  (service.document.resolve node).members = [] ∨
    service.typeSchema message = .ok (service.document.resolve node)

theorem messageNode_eq_typeSchema {message : String} {node : Option Node}
    (h : ∀ inline ∈ node, service.StandsFor inline message) :
    service.messageNode message node = service.typeSchema message := by
  cases node with
  | none => rfl
  | some inline =>
    simp only [messageNode, Option.map_some]
    split
    · rfl
    · next members =>
      rcases h inline rfl with empty | same
      · simp [empty] at members
      · exact same.symm

theorem typeSchema_of_contains {type : String}
    (h : service.document.schemas.contains type = true) :
    ∃ node, service.typeSchema type = .ok node := by
  obtain ⟨node, found⟩ := Option.isSome_iff_exists.mp h
  exact ⟨service.document.resolve node, by simp only [typeSchema, found]⟩

theorem contains_of_typeSchema {type : String} {node : Node}
    (h : service.typeSchema type = .ok node) : service.document.schemas.contains type = true := by
  unfold typeSchema at h
  split at h
  · next found => exact Option.isSome_iff_exists.mpr ⟨_, found⟩
  · cases h

end Service

end Typesmith
