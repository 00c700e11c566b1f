import Typesmith.Proofs.Dict
import Typesmith.Proofs.Report
import Typesmith.Walk

/-! # The steps of a walk

A walk goes on with one operation per item, entry or attribute of the value that it is at, in order;
objects are walked by name. What is no container for its tag has no parts and is walked at once.
-/

namespace Typesmith

open Json (Value)
open OpenApi (Node)

/-- Induction over values, with the claim at hand for all items and members. -/
@[elab_as_elim]
theorem Json.Value.induct {motive : Value → Prop} (null : motive .null)
    (bool : ∀ b, motive (.bool b)) (number : ∀ n, motive (.number n))
    (string : ∀ s, motive (.string s))
    (array : ∀ items, (∀ item ∈ items, motive item) → motive (.array items))
    (object : ∀ members, (∀ member ∈ members, motive member.2) → motive (.object members)) :
    ∀ value, motive value
  | .null => null
  | .bool b => bool b
  | .number n => number n
  | .string s => string s
  | .array items => array items fun item _ =>
      Value.induct null bool number string array object item
  | .object members => object members fun member _ =>
      Value.induct null bool number string array object member.2
termination_by value => sizeOf value
decreasing_by
  · have := List.sizeOf_lt_of_mem ‹item ∈ items›
    simp only [Value.array.sizeOf_spec]
    omega
  · have := List.sizeOf_lt_of_mem ‹member ∈ members›
    obtain ⟨name, value⟩ := member
    simp only [Prod.mk.sizeOf_spec, Value.object.sizeOf_spec] at this ⊢
    omega

/-- Whether a value has parts for a tag, or is a structure that the tag takes as it is. -/
def Tag.opens : Tag → Value → Bool
  | .array _, .array _ | .map _ _, .object _ | .message _, .object _ | .json, .object _ => true
  | _, _ => false

theorem mapKey_cases (tag : Tag) (key : String) :
    (∃ b, mapKey tag key = .bool b) ∨ (∃ n, mapKey tag key = .number n) ∨
      mapKey tag key = .string key := by
  unfold mapKey
  split
  · split
    · exact .inl ⟨true, rfl⟩
    · split
      · exact .inl ⟨false, rfl⟩
      · exact .inr (.inr rfl)
  · split
    · cases h : (Value.parse? key).filter Value.isNumber with
      | none => exact .inr (.inr rfl)
      | some value =>
        have number := (Option.filter_eq_some_iff.mp h).2
        cases value <;> simp [Value.isNumber] at number
        exact .inr (.inl ⟨_, rfl⟩)
    · exact .inr (.inr rfl)
  · exact .inr (.inr rfl)

namespace Service

variable {service : Service} {tag element key value : Tag} {node : Option Node} {location : String}

def itemNode (service : Service) (node : Option Node) : Option Node :=
  node.bind fun node => (service.document.resolve node).items

def walkItem (service : Service) (element : Tag) (node : Option Node) (location : String)
    (item : Value × Nat) : Report (Option Literal) :=
  service.walk element node (location ++ "[" ++ toString item.2 ++ "]") item.1

def walkEntry (service : Service) (key value : Tag) (location : String)
    (entry : String × Value) : Report (Option (Literal × Literal)) := do
  let inner := location ++ "." ++ entry.1
  match ← service.walkLeaf key inner (mapKey key entry.1) with
  | none => return none
  | some keyLiteral => return (← service.walk value none inner entry.2).map (keyLiteral, ·)

def walkMember (service : Service) (message : String) (node : Node) (location : String)
    (member : String × Value) : Report (Option (String × Literal)) :=
  match node.properties.get? member.1 with
  | none => pure none
  | some property => do
    let field ← service.resolveNode message member.1 property (node.isRequired member.1)
    return (← service.walk field.tag (some property) (location ++ "." ++ member.1) member.2).map
      (member.1, ·)

theorem walkEntry_of_none {entry : String × Value}
    (h : service.leaf? key (mapKey key entry.1) = none) :
    service.walkEntry key value location entry = do
      let _ ← service.walkLeaf key (location ++ "." ++ entry.1) (mapKey key entry.1)
      return none := by
  simp only [walkEntry, walkLeaf, h]
  rfl

theorem walkEntry_of_some {entry : String × Value} {literal : Literal}
    (h : service.leaf? key (mapKey key entry.1) = some literal) :
    service.walkEntry key value location entry = do
      return (← service.walk value none (location ++ "." ++ entry.1) entry.2).map (literal, ·) := by
  simp only [walkEntry, walkLeaf, h]
  rfl

theorem walk_of_not_opens {value : Value} (h : tag.opens value = false) :
    service.walk tag node location value = service.walkLeaf tag location value := by
  cases value <;> cases tag <;> simp_all [Tag.opens, walk, walkLeaf, leaf?, scalarLiteral?]

theorem walkItems_eq {items : List Value} {index : Nat} :
    service.walkItems element node location index items =
      Report.each (items.zipIdx index) (service.walkItem element node location) := by
  induction items generalizing index with
  | nil => rfl
  | cons item rest ih => simp only [walkItems, List.zipIdx_cons, Report.each, walkItem, ih]

theorem walkEntries_eq {members : List (String × Value)} :
    service.walkEntries key value location members =
      members.map fun entry => (entry.1, service.walkEntry key value location entry) := by
  induction members with
  | nil => rfl
  | cons entry rest ih =>
    simp only [walkEntries, List.map_cons, ih]
    rfl

theorem walkMembers_eq {message : String} {inner : Node} {members : List (String × Value)} :
    service.walkMembers message inner location members =
      members.map fun member => (member.1, service.walkMember message inner location member) := by
  induction members with
  | nil => rfl
  | cons member rest ih =>
    simp only [walkMembers, List.map_cons, ih]
    rfl

theorem walk_array {items : List Value} :
    service.walk (.array element) node location (.array items) = do
      return some (.list element (← Report.each items.zipIdx
        (service.walkItem element (service.itemNode node) location))) := by
  simp only [walk, walkItems_eq, itemNode]

theorem walk_map {members : List (String × Value)} :
    service.walk (.map key value) node location (.object members) = do
      return some (.map key value (← Report.each (byName members)
        (service.walkEntry key value location))) := by
  simp only [walk, walkEntries_eq, byName_map, Report.collect_map]

theorem walkObject_eq {message : String} {inner : Node} {members : List (String × Value)} :
    service.walkObject message inner location members =
      Report.each (byName members) (service.walkMember message inner location) := by
  simp only [walkObject, walkMembers_eq, byName_map, Report.collect_map]

theorem walk_message {message : String} {members : List (String × Value)} :
    service.walk (.message message) node location (.object members) = do
      let inner ← service.messageNode message node
      return some (.message message (← service.walkObject message inner location members)) := by
  simp only [walk, walkObject]

theorem walk_message_of_node {message : String} {inner : Node} {members : List (String × Value)}
    (h : service.messageNode message node = .ok inner) :
    service.walk (.message message) node location (.object members) = do
      return some (.message message (← Report.each (byName members)
        (service.walkMember message inner location))) := by
  rw [walk_message, h, ← walkObject_eq, Report.bind_lift_ok]

theorem messageNode_of_walk {message : String} {members : List (String × Value)}
    (h : (service.walk (.message message) node location (.object members)).Succeeds) :
    ∃ inner, service.messageNode message node = .ok inner := by
  obtain ⟨inner, found, -⟩ := Report.succeeds_bind_iff.mp (walk_message ▸ h)
  exact ⟨inner, found⟩

theorem walk_messageLiteral {type : String} {attributes : List (String × Value)} :
    service.walk (.message type) none type (.object attributes) = do
      return some (← service.messageLiteral type attributes) := by
  simp only [walk_message, messageLiteral, exampleFields, Report.bind_assoc]
  rfl

theorem walk_of_messageLiteral {type : String} {attributes : List (String × Value)}
    {literal : Literal} (h : (service.messageLiteral type attributes).outcome = .ok literal) :
    service.walk (.message type) none type (.object attributes) =
      ⟨.ok (some literal), (service.messageLiteral type attributes).warnings⟩ := by
  rw [walk_messageLiteral, Report.bind_of_ok h, Report.warnings_pure, List.append_nil]
  rfl

@[simp] theorem outcome_walkLeaf {value : Value} :
    (service.walkLeaf tag location value).outcome = .ok (service.leaf? tag value) := by
  unfold walkLeaf
  cases service.leaf? tag value <;> rfl

@[simp] theorem found_walkLeaf {value : Value} :
    (service.walkLeaf tag location value).found = service.leaf? tag value :=
  Report.found_of_outcome outcome_walkLeaf

theorem found_walkEntry {entry : String × Value} :
    (service.walkEntry key value location entry).found =
      (service.leaf? key (mapKey key entry.1)).bind fun keyLiteral =>
        (service.walk value none (location ++ "." ++ entry.1) entry.2).found.map
          (keyLiteral, ·) := by
  simp only [walkEntry, Report.found_bind, outcome_walkLeaf, Except.toOption, Option.bind_some]
  cases service.leaf? key (mapKey key entry.1) with
  | none => rfl
  | some keyLiteral => exact Report.found_return_map

/-- An attribute of an example with the property that it is read by, and its literal. -/
structure Attribute where
  name : String
  value : Value
  property : Node
  field : Field
  literal : Literal

/-- What becomes of an attribute, if it has a property that admits it. -/
def attribute? (service : Service) (message : String) (node : Node) (location : String)
    (member : String × Value) : Option Attribute := do
  let (name, value) := member
  let property ← node.properties.get? name
  let field ← (service.resolveNode message name property (node.isRequired name)).outcome.toOption
  let literal ← (service.walk field.tag (some property) (location ++ "." ++ name) value).found
  return { name, value, property, field, literal }

theorem found_walkMember {message : String} {inner : Node} {member : String × Value} :
    (service.walkMember message inner location member).found =
      (service.attribute? message inner location member).map fun kept =>
        (kept.name, kept.literal) := by
  simp only [walkMember, attribute?, Option.bind_eq_bind, Option.map_bind]
  cases inner.properties.get? member.1 with
  | none => rfl
  | some property =>
    rw [Report.found_bind, Option.bind_some, Function.comp_apply, Option.map_bind]
    refine Option.bind_congr fun field _ => ?_
    rw [Report.found_return_map, Function.comp_apply]
    generalize (service.walk field.tag (some property) (location ++ "." ++ member.1)
      member.2).found = found
    cases found <;> rfl

end Service

end Typesmith
