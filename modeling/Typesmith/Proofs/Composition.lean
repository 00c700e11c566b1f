import Typesmith.Proofs.Carries

/-! # Walks by parts

What a walk makes of an object, a list or a map is what it makes of each part alone, put together in
order. The first part that fails decides about the whole; a part that gives nothing leaves all
others as they are, and attributes that are no properties could as well be missing.
-/

namespace Typesmith

open Json (Value)
open OpenApi (Node)

namespace Report

variable {α β γ : Type}

/-- An operation on some items does what it does for each item alone, in order. It gives what the
items give together, in the form that `wrap` puts results in, or else fails as the first item that
does; it warns of what the items up to there warn of. -/
structure Joins (wrap : List β → γ) (whole : Report γ) (items : List α) (alone : α → Report γ) :
    Prop where
  succeeds_iff : whole.Succeeds ↔ ∀ item ∈ items, (alone item).Succeeds
  wrapped : ∀ item ∈ items, ∀ result, (alone item).outcome = .ok result →
    ∃ found, result = wrap found
  joined : ∀ results : List (List β),
    List.Forall₂ (fun item found => (alone item).outcome = .ok (wrap found)) items results →
      whole = ⟨.ok (wrap results.flatten), items.flatMap fun item => (alone item).warnings⟩
  fails_first : ∀ before item after error, items = before ++ item :: after →
    (∀ earlier ∈ before, (alone earlier).Succeeds) → (alone item).outcome = .error error →
      whole = ⟨.error error, (before ++ [item]).flatMap fun item => (alone item).warnings⟩
  others : ∀ before item after, items = before ++ item :: after →
    (alone item).outcome = .ok (wrap []) → ∀ results : List (List β),
      List.Forall₂ (fun item found => (alone item).outcome = .ok (wrap found)) (before ++ after)
        results → whole.outcome = .ok (wrap results.flatten)

variable {items : List α} {run : α → Report (Option β)}

theorem each_singleton {item : α} :
    each [item] run = ⟨(run item).outcome.map Option.toList, (run item).warnings⟩ := by
  simp only [each, Report.pure_bind, List.append_nil]
  exact return_eq

theorem each_append {others : List α} :
    each (items ++ others) run = do
      let first ← each items run
      let second ← each others run
      return first ++ second := by
  induction items with
  | nil => exact (bind_pure).symm
  | cons item rest ih =>
    simp only [List.cons_append, each, ih, bind_assoc, pure_bind, List.append_assoc]

theorem each_map {f : γ → α} {items : List γ} :
    each (items.map f) run = each items fun item => run (f item) := by
  induction items with
  | nil => rfl
  | cons item rest ih => simp only [List.map_cons, each, ih]

theorem each_filter {p : α → Bool} (idle : ∀ item ∈ items, p item = false → run item = pure none) :
    each (items.filter p) run = each items run := by
  induction items with
  | nil => rfl
  | cons item rest ih =>
    obtain ⟨first, others⟩ := List.forall_mem_cons.mp idle
    rw [List.filter_cons, each, ← ih others]
    cases kept : p item with
    | true => rfl
    | false =>
      rw [first kept, pure_bind]
      exact bind_pure.symm

theorem outcome_bind_congr {report report' : Report α} {next next' : α → Report β}
    (h : report.outcome = report'.outcome)
    (h' : ∀ value, (next value).outcome = (next' value).outcome) :
    (report >>= next).outcome = (report' >>= next').outcome := by
  cases outcome : report.outcome with
  | ok value => rw [bind_of_ok outcome, bind_of_ok (h ▸ outcome), h']
  | error error => rw [bind_of_error outcome, bind_of_error (h ▸ outcome)]

theorem outcome_each_congr {run' : α → Report (Option β)}
    (h : ∀ item ∈ items, (run item).outcome = (run' item).outcome) :
    (each items run).outcome = (each items run').outcome := by
  induction items with
  | nil => rfl
  | cons item rest ih =>
    obtain ⟨first, others⟩ := List.forall_mem_cons.mp h
    rw [each, each]
    exact outcome_bind_congr first fun _ => outcome_bind_congr (ih others) fun _ => rfl

theorem each_of_first_error {before after : List α} {item : α} {error : Error}
    (all : ∀ earlier ∈ before, (run earlier).Succeeds) (fails : (run item).outcome = .error error) :
    each (before ++ item :: after) run =
      ⟨.error error, (before ++ [item]).flatMap fun item => (run item).warnings⟩ := by
  rw [each_append, each_of_succeeds all, bind_of_ok rfl, each, bind_of_error fails,
    bind_of_error rfl]
  simp

section

variable {wrap : List β → γ} {item : α} {found : List β}

theorem return_each_of_all (all : ∀ item ∈ items, (run item).Succeeds) :
    (do return wrap (← each items run)) =
      ⟨.ok (wrap (items.map fun item => (run item).found.toList).flatten),
        items.flatMap fun item => (run item).warnings⟩ := by
  rw [each_of_succeeds all, bind_of_ok rfl, warnings_pure, List.append_nil,
    List.filterMap_eq_flatMap_toList, List.flatMap_def]
  rfl

theorem return_each_singleton :
    (do return wrap (← each [item] run)) =
      ⟨(run item).outcome.map fun found => wrap found.toList, (run item).warnings⟩ := by
  rw [return_eq, each_singleton]
  cases (run item).outcome <;> rfl

theorem succeeds_return_each_singleton :
    (do return wrap (← each [item] run) : Report γ).Succeeds ↔ (run item).Succeeds := by
  rw [succeeds_return_iff, succeeds_each_iff, List.forall_mem_singleton]

variable (injective : Function.Injective wrap)
include injective

theorem outcome_return_each_singleton_iff :
    (do return wrap (← each [item] run) : Report γ).outcome = .ok (wrap found) ↔
      (run item).Succeeds ∧ (run item).found.toList = found := by
  rw [return_each_singleton, Succeeds, Report.found]
  cases (run item).outcome <;> simp [Except.map, injective.eq_iff]

theorem forall₂_return_each_singleton_iff {results : List (List β)} :
    List.Forall₂ (fun item found =>
      (do return wrap (← each [item] run) : Report γ).outcome = .ok (wrap found)) items results ↔
      (∀ item ∈ items, (run item).Succeeds) ∧
        items.map (fun item => (run item).found.toList) = results := by
  simp only [outcome_return_each_singleton_iff injective]
  induction items generalizing results with
  | nil => simp [eq_comm]
  | cons item rest ih =>
    rw [List.forall₂_cons_left_iff]
    simp only [ih, List.forall_mem_cons, List.map_cons]
    constructor
    · rintro ⟨first, others, ⟨here, rfl⟩, ⟨there, rfl⟩, rfl⟩
      exact ⟨⟨here, there⟩, rfl⟩
    · rintro ⟨⟨here, there⟩, rfl⟩
      exact ⟨_, _, ⟨here, rfl⟩, ⟨there, rfl⟩, rfl⟩

theorem joins_each :
    Joins wrap (do return wrap (← each items run)) items
      fun item => do return wrap (← each [item] run) where
  succeeds_iff := by
    simp only [succeeds_return_iff, succeeds_each_iff, List.forall_mem_singleton]
  wrapped := by
    intro item _ result h
    rw [return_each_singleton] at h
    cases outcome : (run item).outcome with
    | ok found => exact ⟨found.toList, by simpa [outcome, Except.map] using h.symm⟩
    | error error => simp [outcome, Except.map] at h
  joined := by
    intro results h
    obtain ⟨all, rfl⟩ := (forall₂_return_each_singleton_iff injective).mp h
    simp only [return_each_of_all all, return_each_singleton]
  fails_first := by
    rintro before item after error rfl all fails
    simp only [succeeds_return_each_singleton] at all
    have fails : (run item).outcome = .error error := by
      rw [return_each_singleton] at fails
      cases outcome : (run item).outcome <;> simp_all [Except.map]
    rw [each_of_first_error all fails, bind_of_error rfl]
    simp only [return_each_singleton]
  others := by
    rintro before item after rfl nothing results h
    obtain ⟨here, nothing⟩ := (outcome_return_each_singleton_iff injective).mp nothing
    obtain ⟨all, rfl⟩ := (forall₂_return_each_singleton_iff injective).mp h
    have all : ∀ other ∈ before ++ item :: after, (run other).Succeeds := by
      rw [List.forall_mem_append] at all
      exact List.forall_mem_append.mpr ⟨all.1, List.forall_mem_cons.mpr ⟨here, all.2⟩⟩
    rw [return_each_of_all all]
    simp [nothing]

end

end Report

namespace Service

variable {service : Service} {tag element key value : Tag} {node : Option Node} {location : String}

/-- What a value gives does not depend on the place where it stands. -/
theorem outcome_walk_congr {value : Value} : ∀ {tag node location location'},
    (service.walk tag node location value).outcome =
      (service.walk tag node location' value).outcome := by
  induction value using Value.induct with
  | null | bool | number | string =>
    intro tag node location location'
    rw [walk_of_not_opens (by cases tag <;> rfl), walk_of_not_opens (by cases tag <;> rfl),
      outcome_walkLeaf, outcome_walkLeaf]
  | array items ih =>
    intro tag node location location'
    cases tag with
    | array element =>
      rw [walk_array, walk_array]
      refine Report.outcome_bind_congr (Report.outcome_each_congr fun item mem => ?_) fun _ => rfl
      exact ih item.1 (List.fst_mem_of_mem_zipIdx mem)
    | _ => rfl
  | object members ih =>
    intro tag node location location'
    cases tag with
    | map key value =>
      rw [walk_map, walk_map]
      refine Report.outcome_bind_congr (Report.outcome_each_congr fun entry mem => ?_) fun _ => rfl
      refine Report.outcome_bind_congr (outcome_walkLeaf.trans outcome_walkLeaf.symm)
        fun found => ?_
      cases found with
      | none => rfl
      | some keyLiteral =>
        exact Report.outcome_bind_congr (ih entry (mem_of_mem_byName mem)) fun _ => rfl
    | message name =>
      rw [walk_message, walk_message]
      refine Report.outcome_bind_congr rfl fun inner => ?_
      rw [walkObject_eq, walkObject_eq]
      refine Report.outcome_bind_congr (Report.outcome_each_congr fun member mem => ?_) fun _ => rfl
      unfold walkMember
      cases inner.properties.get? member.1 with
      | none => rfl
      | some property =>
        refine Report.outcome_bind_congr rfl fun field => ?_
        exact Report.outcome_bind_congr (ih member (mem_of_mem_byName mem)) fun _ => rfl
    | _ => rfl

def walkSoleItem (service : Service) (element : Tag) (node : Option Node) (location : String)
    (item : Value × Nat) : Report (Option Literal) := do
  return some (.list element (← service.walk element (service.itemNode node)
    (location ++ "[" ++ toString item.2 ++ "]") item.1).toList)

theorem walkSoleItem_eq {item : Value × Nat} :
    service.walkSoleItem element node location item = do
      return some (.list element (← Report.each [item]
        (service.walkItem element (service.itemNode node) location))) := by
  rw [Report.return_each_singleton, walkSoleItem, Report.return_eq]
  rfl

theorem outcome_walkSoleItem {item : Value × Nat} :
    (service.walkSoleItem element node location item).outcome =
      (service.walk (.array element) node location (.array [item.1])).outcome := by
  rw [walkSoleItem_eq, walk_array, Report.return_each_singleton, List.zipIdx_singleton,
    Report.return_each_singleton]
  exact congrArg (Except.map _) outcome_walk_congr

theorem joins_walkObject {message : String} {inner : Node} {members : List (String × Value)} :
    Report.Joins id (service.walkObject message inner location members) (byName members)
      fun member => service.walkObject message inner location [member] := by
  have joins : Report.Joins id (do return id (← Report.each (byName members)
      (service.walkMember message inner location))) (byName members) _ :=
    Report.joins_each Function.injective_id
  simpa only [walkObject_eq, byName_singleton, id, Report.bind_pure] using joins

theorem joins_array {items : List Value} :
    Report.Joins (fun found => some (.list element found))
      (service.walk (.array element) node location (.array items)) items.zipIdx
      (service.walkSoleItem element node location) := by
  have alone : service.walkSoleItem element node location = _ := funext fun _ => walkSoleItem_eq
  rw [walk_array, alone]
  exact Report.joins_each fun found found' same => by simpa using same

theorem joins_map {members : List (String × Value)} :
    Report.Joins (fun found => some (.map key value found))
      (service.walk (.map key value) node location (.object members)) (byName members)
      fun entry => service.walk (.map key value) node location (.object [entry]) := by
  simp only [walk_map, byName_singleton]
  exact Report.joins_each fun found found' same => by simpa using same

/-- The tag that an attribute is read by; a property without one ends the walk. -/
def memberTag (service : Service) (message : String) (inner : Node) (name : String)
    (property : Node) : Tag :=
  let field := service.resolveNode message name property (inner.isRequired name)
  (field.outcome.toOption.map (·.tag)).getD .any

mutual

/-- A value without the attributes at any depth that are no properties. -/
def known (service : Service) (tag : Tag) (node : Option Node) : Value → Value
  | .array items =>
    match tag with
    | .array element => .array (knownItems service element (service.itemNode node) items)
    | _ => .array items
  | .object members =>
    match tag with
    | .map _ value => .object (knownEntries service value members)
    | .message name =>
      match service.messageNode name node with
      | .ok inner => .object (knownMembers service name inner members)
      | .error _ => .object members
    | _ => .object members
  | value => value

def knownItems (service : Service) (element : Tag) (node : Option Node) : List Value → List Value
  | [] => []
  | item :: rest => known service element node item :: knownItems service element node rest

def knownEntries (service : Service) (value : Tag) :
    List (String × Value) → List (String × Value)
  | [] => []
  | (name, entry) :: rest =>
    (name, known service value none entry) :: knownEntries service value rest

def knownMembers (service : Service) (message : String) (inner : Node) :
    List (String × Value) → List (String × Value)
  | [] => []
  | (name, value) :: rest =>
    match inner.properties.get? name with
    | none => knownMembers service message inner rest
    | some property =>
      (name, known service (service.memberTag message inner name property) (some property) value) ::
        knownMembers service message inner rest

end

theorem knownItems_eq {items : List Value} :
    service.knownItems element node items = items.map (service.known element node) := by
  induction items with
  | nil => rfl
  | cons item rest ih => rw [knownItems, ih, List.map_cons]

theorem knownEntries_eq {members : List (String × Value)} :
    service.knownEntries value members =
      members.map fun entry => (entry.1, service.known value none entry.2) := by
  induction members with
  | nil => rfl
  | cons entry rest ih => rw [knownEntries, ih, List.map_cons]

def knownMember (service : Service) (message : String) (inner : Node)
    (member : String × Value) : Value :=
  match inner.properties.get? member.1 with
  | none => member.2
  | some property =>
    service.known (service.memberTag message inner member.1 property) (some property) member.2

theorem knownMembers_eq {message : String} {inner : Node} {members : List (String × Value)} :
    service.knownMembers message inner members =
      (members.filter fun member => inner.properties.contains member.1).map fun member =>
        (member.1, service.knownMember message inner member) := by
  induction members with
  | nil => rfl
  | cons member rest ih =>
    rw [knownMembers, List.filter_cons, Dict.contains]
    cases offered : inner.properties.get? member.1 with
    | none => simpa using ih
    | some property => simp [ih, knownMember, offered]

theorem walkMember_of_none {message : String} {inner : Node} {member : String × Value}
    (absent : inner.properties.get? member.1 = none) :
    service.walkMember message inner location member = pure none := by
  simp only [walkMember, absent]

theorem walkMember_known {message : String} {inner : Node} {member : String × Value}
    (part : ∀ {tag node location},
      service.walk tag node location (service.known tag node member.2) =
        service.walk tag node location member.2) :
    service.walkMember message inner location
        (member.1, service.knownMember message inner member) =
      service.walkMember message inner location member := by
  unfold walkMember knownMember
  cases offered : inner.properties.get? member.1 with
  | none => rfl
  | some property =>
    dsimp only
    cases resolved : (service.resolveNode message member.1 property
        (inner.isRequired member.1)).outcome with
    | error error => rw [Report.bind_of_error resolved, Report.bind_of_error resolved]
    | ok field =>
      have tag : service.memberTag message inner member.1 property = field.tag := by
        simp [memberTag, resolved, Except.toOption]
      rw [Report.bind_of_ok resolved, Report.bind_of_ok resolved, tag, part]

theorem walkObject_known {message : String} {inner : Node} {members : List (String × Value)}
    (parts : ∀ member ∈ members, ∀ {tag node location},
      service.walk tag node location (service.known tag node member.2) =
        service.walk tag node location member.2) :
    service.walkObject message inner location (service.knownMembers message inner members) =
      service.walkObject message inner location members := by
  rw [walkObject_eq, walkObject_eq, knownMembers_eq, byName_map, byName_filter
    (fun name => inner.properties.contains name), Report.each_map]
  have kept : ∀ member ∈ (byName members).filter fun member => inner.properties.contains member.1,
      service.walkMember message inner location
          (member.1, service.knownMember message inner member) =
        service.walkMember message inner location member :=
    fun member mem => walkMember_known (parts member (mem_of_mem_byName (List.mem_filter.mp mem).1))
  rw [Report.each_congr kept]
  refine Report.each_filter fun member _ absent => walkMember_of_none ?_
  simpa [Dict.contains] using absent

theorem walk_known {value : Value} : ∀ {tag node location},
    service.walk tag node location (service.known tag node value) =
      service.walk tag node location value := by
  induction value using Value.induct with
  | null | bool | number | string => exact rfl
  | array items ih =>
    intro tag node location
    cases tag with
    | array element =>
      rw [known, knownItems_eq, walk_array, walk_array, List.zipIdx_map, Report.each_map]
      rw [Report.each_congr fun item mem => ?_]
      exact ih item.1 (List.fst_mem_of_mem_zipIdx mem)
    | _ => rfl
  | object members ih =>
    intro tag node location
    cases tag with
    | map key value =>
      rw [known, knownEntries_eq, walk_map, walk_map, byName_map, Report.each_map]
      rw [Report.each_congr fun entry mem => ?_]
      simp only [walkEntry, ih entry (mem_of_mem_byName mem)]
    | message name =>
      rw [known]
      cases found : service.messageNode name node with
      | error error => rfl
      | ok inner =>
        dsimp only
        rw [walk_message, walk_message, found, Report.bind_lift_ok, Report.bind_lift_ok,
          walkObject_known ih]
    | _ => rfl

/-- Walks of objects, arrays and maps join the walks of their attributes, items and entries alone,
objects and maps by name. What a tag does not admit gives nothing but a warning, and attributes
without a property are of no account at any depth. -/
theorem walk_by_parts (service : Service) (location : String) :
    (∀ message inner members,
      Report.Joins id (service.walkObject message inner location members) (byName members)
        fun member => service.walkObject message inner location [member]) ∧
    (∀ element node items,
      Report.Joins (fun found => some (.list element found))
        (service.walk (.array element) node location (.array items)) items.zipIdx
        (service.walkSoleItem element node location)) ∧
    (∀ element node item,
      (service.walkSoleItem element node location item).outcome =
        (service.walk (.array element) node location (.array [item.1])).outcome) ∧
    (∀ key value node members,
      Report.Joins (fun found => some (.map key value found))
        (service.walk (.map key value) node location (.object members)) (byName members)
        fun entry => service.walk (.map key value) node location (.object [entry])) ∧
    (∀ tag node value, tag.opens value = false → service.leaf? tag value = none →
      service.walk tag node location value =
        ⟨.ok none, [.mismatch location tag.display value.kindName]⟩) ∧
    (∀ message inner name value, inner.properties.get? name = none →
      service.walkObject message inner location [(name, value)] = pure []) ∧
    (∀ message inner members,
      service.walkObject message inner location (service.knownMembers message inner members) =
        service.walkObject message inner location members) ∧
    ∀ tag node value, service.walk tag node location (service.known tag node value) =
      service.walk tag node location value := by
  refine ⟨fun _ _ _ => joins_walkObject, fun _ _ _ => joins_array,
    fun _ _ _ => outcome_walkSoleItem, fun _ _ _ _ => joins_map,
    fun tag node value leaf rejected => ?_, fun message inner name value absent => ?_,
    fun _ _ _ => walkObject_known fun _ _ => walk_known, fun _ _ _ => walk_known⟩
  · rw [walk_of_not_opens leaf, walkLeaf, rejected]
    rfl
  · rw [walkObject_eq, byName_singleton, Report.each_singleton, walkMember_of_none absent]
    rfl

set_option maxRecDepth 8000 in
theorem notes_walk_by_parts :
    (notes.walkObject "Note" noteNode "Note" noteAttributes).outcome = .ok [
        ("id", .number "7"), ("parent", .message "Note" parentFields),
        ("ratings", .map (.scalar .int32) (.enum "Rating")
          [(.number "1", .enum "Rating" "GOOD")])] ∧
      noteNode.properties.get? "pinned" = none ∧
      notes.walkObject "Note" noteNode "Note" [("pinned", .bool true)] = pure [] := by
  obtain ⟨joins, -, -, -, -, idle, -⟩ := walk_by_parts notes "Note"
  have absent : noteNode.properties.get? "pinned" = none := rfl
  refine ⟨?_, absent, idle "Note" noteNode "pinned" (.bool true) absent⟩
  rw [(joins "Note" noteNode noteAttributes).joined [
    [("id", .number "7")], [("parent", .message "Note" parentFields)], [],
    [("ratings", .map (.scalar .int32) (.enum "Rating") [(.number "1", .enum "Rating" "GOOD")])]]
    (.cons rfl (.cons rfl (.cons rfl (.cons rfl .nil))))]
  rfl

end Service

end Typesmith
