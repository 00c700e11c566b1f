import Typesmith.Proofs.Integer
import Typesmith.Proofs.Resolution
import Typesmith.Proofs.Walk

/-! # What literals carry

A literal carries a value for a tag when it has the form that the tag asks for, at every depth, and
the data of the value. Every literal that a walk gives carries the value that it was given for.
-/

namespace Typesmith

open Json (Value)
open OpenApi (Node)

namespace Service

variable (service : Service)

/-- A literal carries a value that is read by a tag and a node. Lists, maps and messages keep some
of the parts of the value, in order; the node of a message says what its attributes are. -/
inductive Carries : Tag → Option Node → Value → Literal → Prop

  | text {kind node s} : kind = .string ∨ kind = .bytes →
      Carries (.scalar kind) node (.string s) (.string s)

  | bool {node b} : Carries (.scalar .bool) node (.bool b) (.bool b)

  | integer {kind node value n} : Denotes kind value n → kind.holds n = true →
      Carries (.scalar kind) node value (.number (toString n))

  | number {kind node x} : kind = .float ∨ kind = .double ∨ kind = .number →
      Carries (.scalar kind) node (.number x) (.number x.text)

  | enum {name node s descriptor} : service.descriptors.enum? name = some descriptor →
      descriptor.declares s = true → Carries (.enum name) node (.string s) (.enum name s)

  | list {element node items} (kept : List (Value × Literal)) :
      (kept.map (·.1)).Sublist items →
      (∀ part ∈ kept, Carries element (service.itemNode node) part.1 part.2) →
      Carries (.array element) node (.array items) (.list element (kept.map (·.2)))

  | map {key value node members} (kept : List ((String × Value) × (Literal × Literal))) :
      (kept.map (·.1)).Sublist (byName members) →
      (∀ part ∈ kept, Carries key none (mapKey key part.1.1) part.2.1) →
      (∀ part ∈ kept, Carries value none part.1.2 part.2.2) →
      Carries (.map key value) node (.object members) (.map key value (kept.map (·.2)))

  | message {name node inner members} (kept : List Attribute) :
      service.messageNode name node = .ok inner →
      (kept.map fun part => (part.name, part.value)).Sublist (byName members) →
      Increasing (kept.map fun part => (part.name, part.literal)) →
      (∀ part ∈ kept, inner.properties.get? part.name = some part.property) →
      (∀ part ∈ kept, (service.resolveNode name part.name part.property
        (inner.isRequired part.name)).outcome = .ok part.field) →
      (∀ part ∈ kept, Carries part.field.tag (some part.property) part.value part.literal) →
      Carries (.message name) node (.object members)
        (.message name (kept.map fun part => (part.name, part.literal)))

  | json {node members} : Carries .json node (.object members) (.json (.object members))

  | any {node value} : value ≠ .null → Carries .any node value (.json value)

variable {service} {tag : Tag} {node : Option Node} {location : String} {literal : Literal}

theorem carries_of_numberLiteral? {kind : ScalarKind} {x : Json.Number}
    (h : numberLiteral? kind x = some literal) :
    service.Carries (.scalar kind) node (.number x) literal := by
  unfold numberLiteral? at h
  split at h
  · split at h
    · split at h
      · next n fits =>
        cases h
        rw [integerLiteral_eq]
        exact .integer .number fits
      · simp at h
    · simp at h
  · split at h
    · cases h
      refine .number ?_
      cases kind <;> simp_all [ScalarKind.isNumeric, ScalarKind.isInteger]
    · simp at h

theorem carries_of_integerOf? {kind : ScalarKind} {s : String} (wide : kind.isWide = true)
    (h : (kind.integerOf? s).map integerLiteral = some literal) :
    service.Carries (.scalar kind) node (.string s) literal := by
  obtain ⟨n, hn, rfl⟩ := Option.map_eq_some_iff.mp h
  obtain ⟨spelled, fits⟩ := integerOf?_eq_some_iff.mp hn
  rw [integerLiteral_eq]
  exact .integer (.text wide spelled) fits

theorem carries_of_leaf? {value : Value} (known : service.Knows tag)
    (h : service.leaf? tag value = some literal) : service.Carries tag node value literal := by
  unfold leaf? at h
  split at h
  · simp at h
  · next kind _ =>
    unfold scalarLiteral? at h
    split at h
    · split at h
      · cases h; exact .text (.inl rfl)
      · cases h; exact .text (.inr rfl)
      · exact carries_of_integerOf? rfl h
      · exact carries_of_integerOf? rfl h
      · simp at h
    · split at h
      · next eq => cases h; cases eq; exact .bool
      · simp at h
    · exact carries_of_numberLiteral? h
    · simp at h
  · next name s =>
    split at h
    · next declared =>
      cases h
      obtain ⟨descriptor, found⟩ := known
      exact .enum found (by simpa [isEnumValue, found] using declared)
    · simp at h
  · next null =>
    cases h
    exact .any null
  · simp at h

/-- What a search keeps, beside the items that it is kept for, which are in order. -/
theorem exists_kept {α β γ : Type} (f : α → Option β) (g : α → γ) (items : List α) :
    ∃ kept : List (γ × β), kept.map (·.2) = items.filterMap f ∧
      (kept.map (·.1)).Sublist (items.map g) ∧
      ∀ part ∈ kept, ∃ item ∈ items, g item = part.1 ∧ f item = some part.2 := by
  induction items with
  | nil => exact ⟨[], rfl, .slnil, by simp⟩
  | cons item rest ih =>
    obtain ⟨kept, results, sub, from_items⟩ := ih
    have from_rest : ∀ part ∈ kept,
        ∃ item' ∈ item :: rest, g item' = part.1 ∧ f item' = some part.2 :=
      fun part mem => (from_items part mem).imp fun _ h => ⟨List.mem_cons_of_mem _ h.1, h.2⟩
    cases hf : f item with
    | none => exact ⟨kept, by simpa [hf] using results, sub.cons _, from_rest⟩
    | some result =>
      refine ⟨(g item, result) :: kept, by simpa [hf] using results, sub.cons_cons _, ?_⟩
      exact List.forall_mem_cons.mpr ⟨⟨item, List.mem_cons_self, rfl, hf⟩, from_rest⟩

theorem attribute?_spec {message : String} {inner : Node} {member : String × Value}
    {kept : Attribute} (h : service.attribute? message inner location member = some kept) :
    (kept.name, kept.value) = member ∧ inner.properties.get? kept.name = some kept.property ∧
      (service.resolveNode message kept.name kept.property
        (inner.isRequired kept.name)).outcome = .ok kept.field ∧
      (service.walk kept.field.tag (some kept.property) (location ++ "." ++ kept.name)
        kept.value).found = some kept.literal := by
  simp only [attribute?, Option.bind_eq_bind, Option.bind_eq_some_iff] at h
  obtain ⟨property, hp, field, hf, literal, hl, h⟩ := h
  cases h
  refine ⟨rfl, hp, ?_, hl⟩
  generalize (service.resolveNode message member.1 property
    (inner.isRequired member.1)).outcome = outcome at hf ⊢
  cases outcome with
  | ok found => simpa [Except.toOption] using hf
  | error error => simp [Except.toOption] at hf

theorem outcome_of_found {report : Report (Option Literal)} (h : report.found = some literal) :
    report.outcome = .ok (some literal) := by
  unfold Report.found at h
  split at h
  · next eq => rw [eq, h]
  · simp at h

theorem carries_of_walk_leaf {value : Value} (leaf : tag.opens value = false)
    (known : service.Knows tag)
    (h : (service.walk tag node location value).outcome = .ok (some literal)) :
    service.Carries tag node value literal := by
  rw [walk_of_not_opens leaf, outcome_walkLeaf] at h
  exact carries_of_leaf? known (Except.ok.inj h)

theorem carries_list {element : Tag} {items : List Value}
    (parts : ∀ item ∈ items, ∀ {location literal},
      (service.walk element (service.itemNode node) location item).outcome = .ok (some literal) →
        service.Carries element (service.itemNode node) item literal)
    (h : (service.walk (.array element) node location (.array items)).outcome =
      .ok (some literal)) :
    service.Carries (.array element) node (.array items) literal := by
  rw [walk_array] at h
  obtain ⟨-, eq⟩ := Report.return_each_of_succeeds _ ⟨_, h⟩
  rw [eq] at h
  cases h
  obtain ⟨kept, literals, sub, from_items⟩ := exists_kept
    (fun item => (service.walkItem element (service.itemNode node) location item).found)
    Prod.fst items.zipIdx
  rw [← literals]
  rw [List.zipIdx_map_fst] at sub
  refine .list kept sub fun part mem => ?_
  obtain ⟨item, hi, same, found⟩ := from_items part mem
  rw [← same]
  exact parts item.1 (List.fst_mem_of_mem_zipIdx hi) (outcome_of_found found)

theorem carries_map {key value : Tag} {members : List (String × Value)}
    (known : service.Knows key)
    (parts : ∀ member ∈ members, ∀ {location literal},
      (service.walk value none location member.2).outcome = .ok (some literal) →
        service.Carries value none member.2 literal)
    (h : (service.walk (.map key value) node location (.object members)).outcome =
      .ok (some literal)) :
    service.Carries (.map key value) node (.object members) literal := by
  rw [walk_map] at h
  obtain ⟨-, eq⟩ := Report.return_each_of_succeeds _ ⟨_, h⟩
  rw [eq] at h
  cases h
  obtain ⟨kept, literals, sub, from_entries⟩ := exists_kept
    (fun entry => (service.walkEntry key value location entry).found) id (byName members)
  rw [← literals]
  rw [List.map_id] at sub
  have found : ∀ part ∈ kept, part.1 ∈ members ∧
      service.leaf? key (mapKey key part.1.1) = some part.2.1 ∧
      (service.walk value none (location ++ "." ++ part.1.1) part.1.2).found = some part.2.2 := by
    intro part mem
    obtain ⟨entry, he, same, found⟩ := from_entries part mem
    rw [found_walkEntry, Option.bind_eq_some_iff] at found
    obtain ⟨keyLiteral, hk, found⟩ := found
    obtain ⟨literal, hl, same'⟩ := Option.map_eq_some_iff.mp found
    rw [← same, ← same']
    exact ⟨mem_of_mem_byName he, hk, hl⟩
  refine .map kept sub (fun part mem => ?_) fun part mem => ?_
  · exact carries_of_leaf? known (found part mem).2.1
  · exact parts part.1 (found part mem).1 (outcome_of_found (found part mem).2.2)

theorem exists_attributes (service : Service) (message : String) (inner : Node) (location : String)
    (members : List (String × Value)) :
    ∃ kept : List Attribute,
      kept.map (fun part => (part.name, part.literal)) = (byName members).filterMap
        (fun member => (service.walkMember message inner location member).found) ∧
      (kept.map fun part => (part.name, part.value)).Sublist (byName members) ∧
      ∀ part ∈ kept, (part.name, part.value) ∈ members ∧
        inner.properties.get? part.name = some part.property ∧
        (service.resolveNode message part.name part.property
          (inner.isRequired part.name)).outcome = .ok part.field ∧
        (service.walk part.field.tag (some part.property) (location ++ "." ++ part.name)
          part.value).found = some part.literal := by
  obtain ⟨kept, results, sub, from_members⟩ := exists_kept
    (service.attribute? message inner location) id (byName members)
  have spec : ∀ part ∈ kept, part.1 ∈ members ∧
      service.attribute? message inner location part.1 = some part.2 := by
    intro part mem
    obtain ⟨member, hm, rfl, found⟩ := from_members part mem
    exact ⟨mem_of_mem_byName hm, found⟩
  have pairs : (kept.map (·.2)).map (fun part => (part.name, part.value)) = kept.map (·.1) := by
    rw [List.map_map]
    exact List.map_congr_left fun part mem => (attribute?_spec (spec part mem).2).1
  refine ⟨kept.map (·.2), ?_, ?_, ?_⟩
  · rw [results, List.map_filterMap]
    simp only [found_walkMember]
  · rwa [pairs, ← List.map_id (byName members)]
  · intro part mem
    obtain ⟨pair, hp, rfl⟩ := List.mem_map.mp mem
    obtain ⟨same, found⟩ := attribute?_spec (spec pair hp).2
    exact ⟨same ▸ (spec pair hp).1, found⟩

theorem carries_message {name : String} {members : List (String × Value)}
    (parts : ∀ member ∈ members, ∀ {tag node location literal}, service.Knows tag →
      (service.walk tag node location member.2).outcome = .ok (some literal) →
        service.Carries tag node member.2 literal)
    (h : (service.walk (.message name) node location (.object members)).outcome =
      .ok (some literal)) :
    service.Carries (.message name) node (.object members) literal := by
  obtain ⟨inner, hn⟩ := messageNode_of_walk ⟨_, h⟩
  rw [walk_message_of_node hn] at h
  obtain ⟨-, eq⟩ := Report.return_each_of_succeeds _ ⟨_, h⟩
  rw [eq] at h
  cases h
  obtain ⟨kept, fields, sub, spec⟩ := exists_attributes service name inner location members
  rw [← fields]
  have names : ((kept.map fun part => (part.name, part.literal)).map (·.1)).Sublist
      ((byName members).map (·.1)) := by
    simpa only [List.map_map, Function.comp_def] using sub.map (·.1)
  refine .message kept hn sub ((increasing_byName members).of_names names) ?_ ?_ ?_
  all_goals
    intro part mem
    obtain ⟨offered, property, field, walked⟩ := spec part mem
  · exact property
  · exact field
  · have known := knows_of_nodeTag (nodeTag_of_resolveNode field)
    exact parts _ offered known (outcome_of_found walked)

theorem carries_of_walk {value : Value} : ∀ {tag node location literal}, service.Knows tag →
    (service.walk tag node location value).outcome = .ok (some literal) →
      service.Carries tag node value literal := by
  induction value using Value.induct with
  | null | bool | number | string =>
    intro tag node location literal known h
    exact carries_of_walk_leaf (by cases tag <;> rfl) known h
  | array items ih =>
    intro tag node location literal known h
    cases tag with
    | array element => exact carries_list (fun item mem => ih item mem known) h
    | _ => exact carries_of_walk_leaf rfl known h
  | object members ih =>
    intro tag node location literal known h
    cases tag with
    | map key value =>
      exact carries_map known.1 (fun member mem => ih member mem known.2) h
    | message name => exact carries_message (fun member mem => ih member mem) h
    | json =>
      simp only [walk, Report.outcome_pure] at h
      cases h
      exact .json
    | _ => exact carries_of_walk_leaf rfl known h

theorem messageLiteral_carries {type : String} {attributes : List (String × Value)}
    (h : (service.messageLiteral type attributes).outcome = .ok literal) :
    service.Carries (.message type) none (.object attributes) literal :=
  carries_of_walk trivial (congrArg Report.outcome (walk_of_messageLiteral h))

def noteNode : Node where
  kind := some "object"
  members := [
    ("id", { kind := some "number", format := some "int64" }),
    ("parent", { reference := some "#/components/schemas/Note" }),
    ("ratings", { kind := some "object" }),
    ("tags", { kind := some "array", items := some { kind := some "string" } })]

def notes : Service where
  name := "notes"
  document := { schemas := .ofList [("Note", noteNode)] }
  descriptors := {
    package := "notes"
    pool := {
      messages := [
        { fullName := "notes.Note"
          fields := [
            ⟨"id", "id", 1, .scalar .int64, false, none, none⟩,
            ⟨"parent", "parent", 2, .message "notes.Note", false, none, none⟩,
            ⟨"ratings", "ratings", 3, .message "notes.Note.RatingsEntry", true,
              some (.scalar .int32, .enum "notes.Rating"), none⟩,
            ⟨"tags", "tags", 4, .scalar .string, true, none, none⟩]
          isMapEntry := false },
        { fullName := "notes.Note.RatingsEntry"
          fields := [
            ⟨"key", "key", 1, .scalar .int32, false, none, none⟩,
            ⟨"value", "value", 2, .enum "notes.Rating", false, none, none⟩]
          isMapEntry := true }]
      enums := [⟨"notes.Rating", [("NONE", 0), ("GOOD", 1)]⟩] } }
  dynamicTypes := []

/-- A note with a parent; a tag, two ratings and an attribute do not belong to it. -/
def noteAttributes : List (String × Value) := [
  ("ratings", .object [
    ("2", .string "BAD"), ("1", .string "GOOD"), ("one", .string "GOOD")]),
  ("parent", .object [("tags", .array [.string "a", .null, .string "b"])]),
  ("pinned", .bool true),
  ("id", .string "+7")]

def parentFields : List (String × Literal) := [
  ("tags", .list (.scalar .string) [.string "a", .string "b"])]

def noteLiteral : Literal :=
  .message "Note" [
    ("id", .number "7"),
    ("parent", .message "Note" parentFields),
    ("ratings", .map (.scalar .int32) (.enum "Rating") [(.number "1", .enum "Rating" "GOOD")])]

set_option maxRecDepth 8000 in
theorem notes_carries :
    (notes.messageLiteral "Note" noteAttributes).outcome = .ok noteLiteral ∧
      notes.Carries (.message "Note") none (.object noteAttributes) noteLiteral :=
  have h : (notes.messageLiteral "Note" noteAttributes).outcome = .ok noteLiteral := rfl
  ⟨h, messageLiteral_carries h⟩

end Service

end Typesmith
