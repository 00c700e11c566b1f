import Typesmith.Proofs.Carries
import Typesmith.Proofs.Reading

/-! # Who settles a tag

The kind of a node says whether its field is a collection or an object. If it is neither, the node
settles the tag alone, whatever the descriptors are. Otherwise the descriptor of the field settles
it, and of the node nothing but its kind matters.
-/

namespace Typesmith

open OpenApi (Node)

namespace Proto.Pool

/-- A field is a map if it repeats the entry of a map, which has the key and the value as fields. -/
structure IsMap (pool : Pool) (field : FieldDescriptor) (entry : MessageDescriptor)
    (key value : FieldDescriptor) : Prop where
  repeated : field.repeated = true
  kind : field.kind = .message entry.fullName
  found : pool.message? entry.fullName = some entry
  marked : entry.isMapEntry = true
  key : entry.fields.find? (·.number = 1) = some key
  value : entry.fields.find? (·.number = 2) = some value

/-- Every field says correctly whether it is a map, and of what. -/
def Mapped (pool : Pool) : Prop :=
  ∀ message ∈ pool.messages, ∀ field ∈ message.fields, field.mapEntry = pool.mapEntry? field

instance : DecidablePred Mapped := fun pool =>
  inferInstanceAs (Decidable (∀ message ∈ pool.messages, ∀ field ∈ message.fields,
    field.mapEntry = pool.mapEntry? field))

variable {pool : Pool} {field : FieldDescriptor} {name : String}

theorem mapEntry?_eq_some_iff {kinds : Kind × Kind} :
    pool.mapEntry? field = some kinds ↔
      ∃ entry key value, pool.IsMap field entry key value ∧ kinds = (key.kind, value.kind) := by
  constructor
  · intro h
    unfold mapEntry? at h
    split at h
    · next name eq =>
      simp only [Option.bind_eq_bind, Option.bind_eq_some_iff] at h
      obtain ⟨entry, hm, key, hk, value, hv, h⟩ := h
      obtain ⟨hm, marks⟩ := Option.filter_eq_some_iff.mp hm
      obtain ⟨marked, repeated⟩ := Bool.and_eq_true_iff.mp marks
      obtain rfl : entry.fullName = name := by simpa using List.find?_some hm
      exact ⟨entry, key, value, ⟨repeated, eq, hm, marked, hk, hv⟩, by simpa using h.symm⟩
    · simp at h
  · rintro ⟨entry, key, value, map, rfl⟩
    simp [Option.filter, mapEntry?, map.kind, map.found, map.marked, map.repeated, map.key,
      map.value]

theorem message?_withMaps :
    pool.withMaps.message? name = (pool.message? name).map fun message =>
      { message with fields := message.fields.map fun field =>
          { field with mapEntry := pool.mapEntry? field } } := by
  simp only [message?, withMaps, List.find?_map]
  rfl

theorem mapEntry?_withMaps (kinds : Option (Kind × Kind)) :
    pool.withMaps.mapEntry? { field with mapEntry := kinds } = pool.mapEntry? field := by
  unfold mapEntry?
  cases field.kind with
  | scalar | enum => rfl
  | message name =>
    simp only [message?_withMaps]
    cases pool.message? name with
    | none => rfl
    | some entry =>
      cases marks : entry.isMapEntry && field.repeated with
      | false => simp [Option.filter, marks]
      | true =>
        simp only [Option.map_some, Option.filter, marks, if_true, Option.bind_eq_bind,
          Option.bind_some, List.find?_map, Option.bind_map]
        rfl

theorem mapped_withMaps : pool.withMaps.Mapped := by
  intro message mem field hf
  obtain ⟨plain, -, rfl⟩ := List.mem_map.mp mem
  obtain ⟨bare, -, rfl⟩ := List.mem_map.mp hf
  exact (mapEntry?_withMaps _).symm

theorem mapped_of_ofFiles? {files : List FileDecl} (h : ofFiles? files = some pool) :
    pool.Mapped := by
  simp only [ofFiles?] at h
  split at h
  · simp only [Option.bind_eq_bind, Option.bind_eq_some_iff] at h
    obtain ⟨pools, -, h⟩ := h
    split at h
    · cases h
      exact mapped_withMaps
    · simp at h
  · simp at h

theorem mapped_of_compile? {tree : FileTree} {path : String} (h : compile? tree path = some pool) :
    pool.Mapped := by
  simp only [compile?, Option.bind_eq_bind, Option.bind_eq_some_iff] at h
  obtain ⟨files, -, found, hf, h⟩ := h
  split at h
  · cases h
    exact mapped_of_ofFiles? hf
  · simp at h

theorem mapped_of_decode? {bytes : List UInt8} (h : decode? bytes = some pool) : pool.Mapped := by
  obtain ⟨files, -, h⟩ := Option.bind_eq_some_iff.mp h
  exact mapped_of_ofFiles? h

theorem ReadFrom.mapped {tree : FileTree} {path : String} (h : pool.ReadFrom tree path) :
    pool.Mapped := by
  cases h with
  | source _ _ compiled => exact mapped_of_compile? compiled
  | encoded _ _ decoded => exact mapped_of_decode? decoded

end Proto.Pool

namespace Service

variable {service : Service} {message name : String} {node : Node} {required : Bool}

/-- The descriptors of every service that is read say correctly which fields are maps. -/
theorem mapped_of_read {config : Config} {tree : FileTree}
    (h : read config tree name = .ok service) : service.descriptors.pool.Mapped :=
  (read_eq_ok_iff.mp h).pool.mapped

theorem resolveNode_of_plain (plain : ¬ (service.document.resolve node).IsStructured) :
    (service.resolveNode message name node required).Succeeds ∧
      ∀ descriptors, { service with descriptors }.resolveNode message name node required =
        service.resolveNode message name node required := by
  constructor
  · rw [resolveNode_eq, nodeTag_of_plain plain]
    exact ⟨_, rfl⟩
  · intro descriptors
    have same : { service with descriptors }.nodeTag message name (service.document.resolve node) =
        service.nodeTag message name (service.document.resolve node) := by
      rw [nodeTag_of_plain plain, nodeTag_of_plain plain]
      rfl
    simp only [resolveNode_eq, same]

theorem resolveNode_of_structured (structured : (service.document.resolve node).IsStructured) :
    ((service.resolveNode message name node required).Succeeds ↔
      ∃ descriptor, service.descriptors.field? message name = some descriptor) ∧
    (¬ (service.resolveNode message name node required).Succeeds →
      (service.resolveNode message name node required).outcome =
          .error (.fieldNotFound service.name message name) ∧
        (service.resolveNode message name node required).warnings = []) := by
  rw [resolveNode_eq, nodeTag_of_structured structured, fieldDescriptor]
  cases service.descriptors.field? message name with
  | some descriptor =>
    exact ⟨iff_of_true ⟨_, rfl⟩ ⟨_, rfl⟩, fun fails => absurd ⟨_, rfl⟩ fails⟩
  | none =>
    refine ⟨iff_of_false ?_ (by simp), fun _ => ⟨rfl, rfl⟩⟩
    rintro ⟨field, h⟩
    cases h

theorem tag_of_structured {other : Node}
    (structured : (service.document.resolve node).IsStructured)
    (same : (service.document.resolve other).kind = (service.document.resolve node).kind) :
    (service.resolveNode message name other required).outcome.map (·.tag) =
      (service.resolveNode message name node required).outcome.map (·.tag) := by
  have structured' : (service.document.resolve other).IsStructured := by
    unfold OpenApi.Node.IsStructured
    rwa [same]
  rw [resolveNode_eq, resolveNode_eq, nodeTag_of_structured structured,
    nodeTag_of_structured structured', same]
  cases service.fieldDescriptor message name <;> rfl

theorem objectTag_cases (service : Service) (descriptor : Proto.FieldDescriptor) :
    (∃ entry ∈ descriptor.mapEntry,
      service.objectTag descriptor = .map (service.kindTag entry.1) (service.kindTag entry.2)) ∨
    descriptor.mapEntry = none ∧ (service.objectTag descriptor).elements = [] ∧
      ∀ kind, service.objectTag descriptor ≠ .scalar kind := by
  unfold objectTag
  split
  · next entry => exact .inl ⟨_, entry, rfl⟩
  · next bare _ => exact .inr ⟨bare, rfl, by simp⟩
  · next bare structured =>
    refine .inr ⟨bare, elements_kindTag _, fun scalar => ?_⟩
    cases kind : descriptor.kind with
    | scalar type => exact absurd kind (structured type)
    | enum name => simp [kindTag]
    | message name =>
      simp only [kindTag]
      split <;> simp

theorem objectTag_eq_map_iff (mapped : service.descriptors.pool.Mapped)
    {descriptor : Proto.FieldDescriptor} {keyTag valueTag : Tag}
    (found : service.descriptors.field? message name = some descriptor) :
    service.objectTag descriptor = .map keyTag valueTag ↔
      ∃ entry key value, service.descriptors.pool.IsMap descriptor entry key value ∧
        keyTag = service.kindTag key.kind ∧ valueTag = service.kindTag value.kind := by
  obtain ⟨holder, hm, hf⟩ := mem_fields_of_field? found
  have agrees := mapped holder hm descriptor hf
  constructor
  · intro tag
    rcases service.objectTag_cases descriptor with ⟨kinds, known, eq⟩ | ⟨-, flat, -⟩
    · obtain ⟨entry, key, value, map, rfl⟩ := Proto.Pool.mapEntry?_eq_some_iff.mp (agrees ▸ known)
      obtain ⟨rfl, rfl⟩ := Tag.map.inj (tag.symm.trans eq)
      exact ⟨entry, key, value, map, rfl, rfl⟩
    · simp [tag, Tag.elements] at flat
  · rintro ⟨entry, key, value, map, rfl, rfl⟩
    have known : descriptor.mapEntry = some (key.kind, value.kind) :=
      agrees.trans (Proto.Pool.mapEntry?_eq_some_iff.mpr ⟨entry, key, value, map, rfl⟩)
    simp only [objectTag, known]

/-- The node settles the tag, or else the descriptor does, by the kind of the node. -/
theorem tag_cases {field : Field}
    (h : (service.resolveNode message name node required).outcome = .ok field) :
    (¬ (service.document.resolve node).IsStructured ∧
        field.tag = (service.document.resolve node).plainTag) ∨
      ((service.document.resolve node).kind = some "array" ∧
        ∃ descriptor, service.descriptors.field? message name = some descriptor ∧
          field.tag = .array (service.kindTag descriptor.kind)) ∨
      ((service.document.resolve node).kind = some "object" ∧
        ∃ descriptor, service.descriptors.field? message name = some descriptor ∧
          field.tag = service.objectTag descriptor) := by
  rcases outcome_nodeTag_eq_ok_iff.mp (nodeTag_of_resolveNode h) with
    plain | ⟨structured, descriptor, found, tag⟩
  · exact .inl plain
  · have found := fieldDescriptor_eq_ok_iff.mp found
    rcases structured with array | object
    · refine .inr (.inl ⟨array, descriptor, found, ?_⟩)
      simpa [structuredTag, array] using tag
    · refine .inr (.inr ⟨object, descriptor, found, ?_⟩)
      simpa [structuredTag, object] using tag

section

variable {field : Field}
  (h : (service.resolveNode message name node required).outcome = .ok field)

include h

theorem exists_tag_eq_array_iff :
    (∃ element, field.tag = .array element) ↔
      (service.document.resolve node).kind = some "array" := by
  rcases tag_cases h with ⟨plain, tag⟩ | ⟨array, descriptor, -, tag⟩ | ⟨object, descriptor, -, tag⟩
  · refine iff_of_false ?_ fun array => plain (.inl array)
    rcases (service.document.resolve node).plainTag_cases with ⟨kind, eq⟩ | eq <;> simp [tag, eq]
  · exact iff_of_true ⟨_, tag⟩ array
  · refine iff_of_false ?_ (by simp [object])
    rintro ⟨element, array⟩
    rw [tag] at array
    rcases service.objectTag_cases descriptor with ⟨entry, -, map⟩ | ⟨-, flat, -⟩
    · simp [map] at array
    · simp [array, Tag.elements] at flat

theorem tag_eq_map_iff (mapped : service.descriptors.pool.Mapped) {keyTag valueTag : Tag} :
    field.tag = .map keyTag valueTag ↔
      (service.document.resolve node).kind = some "object" ∧
        ∃ descriptor entry key value,
          service.descriptors.field? message name = some descriptor ∧
          service.descriptors.pool.IsMap descriptor entry key value ∧
          keyTag = service.kindTag key.kind ∧ valueTag = service.kindTag value.kind := by
  rcases tag_cases h with
    ⟨plain, tag⟩ | ⟨array, descriptor, -, tag⟩ | ⟨object, descriptor, found, tag⟩
  · refine iff_of_false ?_ fun ⟨object, _⟩ => plain (.inr object)
    rcases (service.document.resolve node).plainTag_cases with ⟨kind, eq⟩ | eq <;> simp [tag, eq]
  · exact iff_of_false (by simp [tag]) (by simp [array])
  · rw [tag, objectTag_eq_map_iff mapped found]
    constructor
    · rintro ⟨entry, key, value, spec⟩
      exact ⟨object, descriptor, entry, key, value, found, spec⟩
    · rintro ⟨-, other, entry, key, value, same, spec⟩
      cases found.symm.trans same
      exact ⟨entry, key, value, spec⟩

theorem kind_eq_object (structured : (∃ message, field.tag = .message message) ∨
      (∃ enum, field.tag = .enum enum) ∨ field.tag = .json) :
    (service.document.resolve node).kind = some "object" := by
  rcases tag_cases h with ⟨-, tag⟩ | ⟨-, descriptor, -, tag⟩ | ⟨object, -⟩
  · rcases (service.document.resolve node).plainTag_cases with ⟨kind, eq⟩ | eq <;>
      simp [tag, eq] at structured
  · simp [tag] at structured
  · exact object

theorem warnings_resolveNode :
    (service.resolveNode message name node required).warnings =
      if field.tag = .scalar .number then
        [.unsupportedFormat (service.location message name)
          ((service.document.resolve node).format.getD "")]
      else if field.tag = .any ∧ (service.document.resolve node).kind ≠ some "object" then
        [.unsupportedFormat (service.location message name)
          ((service.document.resolve node).kind.getD "")]
      else [] := by
  rw [resolveNode_eq]
  rcases tag_cases h with ⟨plain, tag⟩ | ⟨array, descriptor, -, tag⟩ | ⟨object, descriptor, -, tag⟩
  · have none_object : (service.document.resolve node).kind ≠ some "object" :=
      fun object => plain (.inr object)
    simp only [nodeTag_of_plain plain, tag, none_object, ne_eq, not_false_eq_true, and_true]
  · simp [nodeTag_of_structured (.inl array), tag]
  · rw [nodeTag_of_structured (.inr object), tag]
    rcases service.objectTag_cases descriptor with ⟨entry, -, map⟩ | ⟨-, -, unlike⟩
    · simp [map]
    · simp [unlike, object]

end

/-- The kind of a node and the descriptor of a field share the authority over its tag. -/
theorem resolveNode_authority (mapped : service.descriptors.pool.Mapped) (message name : String)
    (node : Node) (required : Bool) :
    (¬ (service.document.resolve node).IsStructured →
      (service.resolveNode message name node required).Succeeds ∧
      ∀ descriptors, { service with descriptors }.resolveNode message name node required =
        service.resolveNode message name node required) ∧
    ((service.document.resolve node).IsStructured →
      ((service.resolveNode message name node required).Succeeds ↔
        ∃ descriptor, service.descriptors.field? message name = some descriptor) ∧
      (¬ (service.resolveNode message name node required).Succeeds →
        (service.resolveNode message name node required).outcome =
            .error (.fieldNotFound service.name message name) ∧
          (service.resolveNode message name node required).warnings = []) ∧
      ∀ other, (service.document.resolve other).kind = (service.document.resolve node).kind →
        (service.resolveNode message name other required).outcome.map (·.tag) =
          (service.resolveNode message name node required).outcome.map (·.tag)) ∧
    ∀ field, (service.resolveNode message name node required).outcome = .ok field →
      ((∃ element, field.tag = .array element) ↔
        (service.document.resolve node).kind = some "array") ∧
      (∀ keyTag valueTag, field.tag = .map keyTag valueTag ↔
        (service.document.resolve node).kind = some "object" ∧
          ∃ descriptor entry key value,
            service.descriptors.field? message name = some descriptor ∧
            service.descriptors.pool.IsMap descriptor entry key value ∧
            keyTag = service.kindTag key.kind ∧ valueTag = service.kindTag value.kind) ∧
      ((∃ message, field.tag = .message message) ∨ (∃ enum, field.tag = .enum enum) ∨
          field.tag = .json →
        (service.document.resolve node).kind = some "object") ∧
      (∀ element ∈ field.tag.elements, element.elements = []) ∧
      (service.resolveNode message name node required).warnings =
        if field.tag = .scalar .number then
          [.unsupportedFormat (service.location message name)
            ((service.document.resolve node).format.getD "")]
        else if field.tag = .any ∧ (service.document.resolve node).kind ≠ some "object" then
          [.unsupportedFormat (service.location message name)
            ((service.document.resolve node).kind.getD "")]
        else [] := by
  refine ⟨resolveNode_of_plain, fun structured => ?_, fun field h => ?_⟩
  · obtain ⟨succeeds, fails⟩ := resolveNode_of_structured structured
    exact ⟨succeeds, fails, fun other same => tag_of_structured structured same⟩
  · exact ⟨exists_tag_eq_array_iff h, fun _ _ => tag_eq_map_iff h mapped, kind_eq_object h,
      elements_of_nodeTag (nodeTag_of_resolveNode h), warnings_resolveNode h⟩

theorem notes_authority :
    notes.descriptors.pool.Mapped ∧
      (∃ descriptor entry key value,
        notes.descriptors.field? "Note" "ratings" = some descriptor ∧
        notes.descriptors.pool.IsMap descriptor entry key value ∧
        Tag.scalar .int32 = notes.kindTag key.kind ∧
        Tag.enum "Rating" = notes.kindTag value.kind) ∧
      (notes.document.resolve { reference := some "#/components/schemas/Note" }).kind =
        some "object" ∧
      (notes.resolveNode "Note" "rating" { kind := some "object" } true).outcome =
        .error (.fieldNotFound "notes" "Note" "rating") := by
  have mapped : notes.descriptors.pool.Mapped := by decide
  refine ⟨mapped, ?_, ?_, ?_⟩
  · have ratings : (notes.resolveNode "Note" "ratings" { kind := some "object" } false).outcome =
        .ok { name := "ratings", tag := .map (.scalar .int32) (.enum "Rating") } := rfl
    obtain ⟨-, -, fields⟩ := resolveNode_authority mapped _ _ _ _
    obtain ⟨-, maps, -⟩ := fields _ ratings
    exact ((maps _ _).mp rfl).2
  · have parent : (notes.resolveNode "Note" "parent"
        { reference := some "#/components/schemas/Note" } false).outcome =
          .ok { name := "parent", tag := .message "Note" } := rfl
    obtain ⟨-, -, fields⟩ := resolveNode_authority mapped _ _ _ _
    obtain ⟨-, -, object, -⟩ := fields _ parent
    exact object (.inl ⟨_, rfl⟩)
  · obtain ⟨-, structured, -⟩ := resolveNode_authority mapped "Note" "rating"
      { kind := some "object" } true
    obtain ⟨-, fails, -⟩ := structured (.inr rfl)
    refine (fails ?_).1
    rintro ⟨field, h⟩
    cases h

end Service

end Typesmith
