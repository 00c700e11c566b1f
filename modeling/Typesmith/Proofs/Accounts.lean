import Typesmith.Proofs.Carries

/-! # Accounts

An account of a position says which positions at or below it were left out, in the order of a walk,
and by how much the literals there fall short of the parts that they were offered. The mismatches
that a walk warns of are the positions of its account.
-/

namespace Typesmith

open Json (Value)
open OpenApi (Node)

/-- A place in an example, with the tag and the node that its value is read by. -/
structure Position where
  location : String
  tag : Tag
  node : Option Node
  value : Value

def Position.warning (position : Position) : Warning :=
  .mismatch position.location position.tag.display position.value.kindName

def Literal.parts : Literal → List Literal
  | .list _ items => items
  | .message _ fields => fields.map (·.2)
  | .map _ _ entries => entries.map (·.2)
  | _ => []

def mismatches (warnings : Diagnostics) : List Warning :=
  warnings.filter (·.kind = .mismatch)

namespace Service

variable (service : Service)

def itemPosition (element : Tag) (node : Option Node) (location : String)
    (item : Value × Nat) : Position :=
  ⟨location ++ "[" ++ toString item.2 ++ "]", element, service.itemNode node, item.1⟩

/-- The value of an entry, or its key if that is no key of the map. -/
def entryPosition (key value : Tag) (location : String) (entry : String × Value) : Position :=
  let inner := location ++ "." ++ entry.1
  match service.leaf? key (mapKey key entry.1) with
  | some _ => ⟨inner, value, none, entry.2⟩
  | none => ⟨inner, key, none, mapKey key entry.1⟩

/-- The value of an attribute that is a property. A property without a tag ends the walk. -/
def memberPosition? (message : String) (inner : Node) (location : String)
    (member : String × Value) : Option Position :=
  (inner.properties.get? member.1).map fun property =>
    let field := service.resolveNode message member.1 property (inner.isRequired member.1)
    ⟨location ++ "." ++ member.1, (field.outcome.toOption.map (·.tag)).getD .any, some property,
      member.2⟩

/-- What a position offers to the literal there: all items of a list, all entries of a map, and the
attributes of a message that are properties of its node. -/
def parts (position : Position) : List Position :=
  let ⟨location, tag, node, value⟩ := position
  match tag, value with
  | .array element, .array items => items.zipIdx.map (service.itemPosition element node location)
  | .map key value, .object members =>
    (byName members).map (service.entryPosition key value location)
  | .message name, .object members =>
    match service.messageNode name node with
    | .ok inner => (byName members).filterMap (service.memberPosition? name inner location)
    | .error _ => []
  | _, _ => []

/-- A position with the literal there, the positions left out, and what its literals lack. -/
structure Part where
  position : Position
  literal : Option Literal
  dropped : List Position
  lack : Nat

def lacks (parts : List Part) : Nat :=
  parts.foldr (fun part rest => part.lack + rest) 0

/-- A position is left out if no literal carries its value. Otherwise the parts that it offers are
accounted for in order, and the literals of those that have one make up the literal there. -/
inductive Accounts : Position → Option Literal → List Position → Nat → Prop

  | dropped {position} :
      (∀ literal, ¬ service.Carries position.tag position.node position.value literal) →
      Accounts position none [position] 0

  | kept {position literal} (parts : List Part) :
      service.Carries position.tag position.node position.value literal →
      parts.map (·.position) = service.parts position →
      parts.filterMap (·.literal) = literal.parts →
      (∀ part ∈ parts, Accounts part.position part.literal part.dropped part.lack) →
      Accounts position (some literal) (parts.flatMap (·.dropped))
        ((service.parts position).length - literal.parts.length + lacks parts)

/-- Some warnings tell exactly of what an account leaves out. -/
def Explains (position : Position) (literal : Option Literal) (warnings : List Warning) : Prop :=
  ∃ dropped lack, service.Accounts position literal dropped lack ∧
    mismatches warnings = dropped.map (·.warning)

variable {service} {position : Position} {tag : Tag} {node : Option Node} {location : String}
  {literal : Literal}

theorem lacks_cons {part : Part} {rest : List Part} :
    lacks (part :: rest) = part.lack + lacks rest := rfl

theorem length_flatMap_dropped {parts : List Part}
    (h : ∀ part ∈ parts, part.dropped.length = part.lack + if part.literal.isNone then 1 else 0) :
    (parts.flatMap (·.dropped)).length + (parts.filterMap (·.literal)).length =
      parts.length + lacks parts := by
  induction parts with
  | nil => rfl
  | cons part rest ih =>
    obtain ⟨first, others⟩ := List.forall_mem_cons.mp h
    have rest_lengths := ih others
    rw [List.flatMap_cons, List.length_append, lacks_cons, List.length_cons]
    cases hl : part.literal with
    | none =>
      rw [hl] at first
      simp only [List.filterMap_cons, hl, Option.isNone_none, if_true] at first ⊢
      omega
    | some literal =>
      rw [hl] at first
      simp only [List.filterMap_cons, hl, List.length_cons, Option.isNone_some,
        Bool.false_eq_true, if_false] at first ⊢
      omega

theorem Accounts.length_dropped {found : Option Literal} {dropped : List Position} {lack : Nat}
    (h : service.Accounts position found dropped lack) :
    dropped.length = lack + if found.isNone then 1 else 0 := by
  induction h with
  | dropped => rfl
  | kept parts carries offered literals _ ih =>
    have total := length_flatMap_dropped ih
    have offers := congrArg List.length offered
    rw [List.length_map] at offers
    have bound := List.length_filterMap_le (·.literal) parts
    simp only [Option.isNone_some, Bool.false_eq_true, if_false]
    rw [literals] at total bound
    omega

theorem same_sums {parts parts' : List Part}
    (positions : parts.map (·.position) = parts'.map (·.position))
    (same : ∀ part ∈ parts, ∀ part' ∈ parts', part.position = part'.position →
      part.dropped = part'.dropped ∧ part.lack = part'.lack ∧
        part.literal.isSome = part'.literal.isSome) :
    parts.flatMap (·.dropped) = parts'.flatMap (·.dropped) ∧
      lacks parts = lacks parts' ∧
      (parts.filterMap (·.literal)).length = (parts'.filterMap (·.literal)).length := by
  induction parts generalizing parts' with
  | nil =>
    cases parts' with
    | nil => exact ⟨rfl, rfl, rfl⟩
    | cons => simp at positions
  | cons part rest ih =>
    cases parts' with
    | nil => simp at positions
    | cons part' rest' =>
      obtain ⟨here, there⟩ := List.cons.inj positions
      obtain ⟨dropped, lack, literal⟩ := same part List.mem_cons_self part' List.mem_cons_self here
      obtain ⟨droppeds, lackings, literals⟩ := ih there fun part mem part' mem' =>
        same part (List.mem_cons_of_mem _ mem) part' (List.mem_cons_of_mem _ mem')
      refine ⟨?_, ?_, ?_⟩
      · rw [List.flatMap_cons, List.flatMap_cons, dropped, droppeds]
      · rw [lacks_cons, lacks_cons, lack, lackings]
      · cases hl : part.literal <;> cases hl' : part'.literal <;> simp_all

/-- A position has one account only. -/
theorem Accounts.unique {found found' : Option Literal} {dropped dropped' : List Position}
    {lack lack' : Nat} (h : service.Accounts position found dropped lack)
    (h' : service.Accounts position found' dropped' lack') :
    dropped = dropped' ∧ lack = lack' ∧ found.isSome = found'.isSome := by
  induction h generalizing found' dropped' lack' with
  | dropped none_carries =>
    cases h' with
    | dropped => exact ⟨rfl, rfl, rfl⟩
    | kept _ carries => exact absurd carries (none_carries _)
  | kept parts carries offered literals _ ih =>
    cases h' with
    | dropped none_carries => exact absurd carries (none_carries _)
    | kept parts' carries' offered' literals' accounts' =>
      obtain ⟨droppeds, lackings, lengths⟩ := same_sums (offered.trans offered'.symm)
        fun part mem part' mem' same => ih part mem (same ▸ accounts' part' mem')
      rw [literals, literals'] at lengths
      exact ⟨droppeds, by rw [lengths, lackings], rfl⟩

theorem mismatches_append (first others : List Warning) :
    mismatches (first ++ others) = mismatches first ++ mismatches others :=
  List.filter_append ..

theorem mismatches_bind {α β : Type} {report : Report α} {next : α → Report β}
    (h : mismatches report.warnings = [])
    (h' : ∀ value, mismatches (next value).warnings = []) :
    mismatches (report >>= next).warnings = [] := by
  cases outcome : report.outcome with
  | ok value => rw [Report.bind_of_ok outcome, mismatches_append, h, h', List.append_nil]
  | error error => rwa [Report.bind_of_error outcome]

theorem mismatches_resolveNode {message name : String} {property : Node} {required : Bool} :
    mismatches (service.resolveNode message name property required).warnings = [] := by
  refine mismatches_bind ?_ fun _ => rfl
  unfold nodeTag
  split
  · rfl
  · rfl
  · split
    · rfl
    · rfl
  · split
    · rfl
    · rfl
  · exact mismatches_bind rfl fun _ => rfl
  · exact mismatches_bind rfl fun _ => rfl
  · rfl

theorem isInteger_of_holds {kind : ScalarKind} {n : Int} (h : kind.holds n = true) :
    kind.isInteger = true := by
  cases kind <;> simp [ScalarKind.holds, ScalarKind.range?, ScalarKind.isInteger] at h ⊢

theorem leaf?_of_carries {value : Value} (leaf : tag.opens value = false)
    (h : service.Carries tag node value literal) : service.leaf? tag value = some literal := by
  cases h with
  | text kind => rcases kind with rfl | rfl <;> rfl
  | bool => rfl
  | @integer kind _ _ n denotes fits =>
    rw [← integerLiteral_eq]
    cases denotes with
    | number =>
      simp [leaf?, scalarLiteral?, numberLiteral?, isInteger_of_holds fits, fits]
    | @text s _ wide spelled =>
      have read := integerOf?_eq_some_iff.mpr ⟨spelled, fits⟩
      cases kind <;> simp [ScalarKind.isWide] at wide <;> simp [leaf?, scalarLiteral?, read]
  | number kind => rcases kind with rfl | rfl | rfl <;> rfl
  | enum found declared => simp [leaf?, isEnumValue, found, declared]
  | list | map | message | json => simp [Tag.opens] at leaf
  | any known => cases value <;> simp_all [leaf?]

theorem parts_eq_nil {value : Value} (leaf : tag.opens value = false) :
    service.parts ⟨location, tag, node, value⟩ = [] := by
  cases tag <;> cases value <;> first | rfl | simp [Tag.opens] at leaf

theorem literalParts_eq_nil {value : Value} (leaf : tag.opens value = false)
    (h : service.Carries tag node value literal) : literal.parts = [] := by
  cases h with
  | list | map | message => simp [Tag.opens] at leaf
  | _ => rfl

theorem leaf_mapKey (tag : Tag) (key : String) : tag.opens (mapKey tag key) = false := by
  rcases mapKey_cases tag key with ⟨b, eq⟩ | ⟨n, eq⟩ | eq
  all_goals
    rw [eq]
    cases tag <;> rfl

theorem explains_leaf {value : Value} (leaf : tag.opens value = false) (known : service.Knows tag) :
    service.Explains ⟨location, tag, node, value⟩ (service.leaf? tag value)
      (service.walkLeaf tag location value).warnings := by
  cases h : service.leaf? tag value with
  | none =>
    refine ⟨_, _, .dropped fun literal carries => ?_, ?_⟩
    · have := leaf?_of_carries leaf carries
      simp [h] at this
    · rw [walkLeaf, h]
      rfl
  | some literal =>
    have carries : service.Carries tag node value literal := carries_of_leaf? known h
    refine ⟨_, _, .kept [] carries (parts_eq_nil leaf).symm (literalParts_eq_nil leaf carries).symm
      (by simp), ?_⟩
    rw [walkLeaf, h]
    rfl

def ExplainsOffer (service : Service) (offer : Option Position) (found : Option Literal)
    (warnings : List Warning) : Prop :=
  match offer with
  | some position => service.Explains position found warnings
  | none => found = none ∧ mismatches warnings = []

section

variable {α β : Type} {items : List α} {run : α → Report (Option β)} {offer : α → Option Position}
  {part : β → Literal}

theorem exists_parts (h : ∀ item ∈ items, service.ExplainsOffer (offer item)
      ((run item).found.map part) (run item).warnings) :
    ∃ parts : List Part,
      parts.map (·.position) = items.filterMap offer ∧
      parts.filterMap (·.literal) = (items.filterMap fun item => (run item).found).map part ∧
      (∀ part ∈ parts,
        service.Accounts part.position part.literal part.dropped part.lack) ∧
      mismatches (items.flatMap fun item => (run item).warnings) =
        (parts.flatMap (·.dropped)).map (·.warning) := by
  induction items with
  | nil => exact ⟨[], rfl, rfl, by simp, rfl⟩
  | cons item rest ih =>
    obtain ⟨first, others⟩ := List.forall_mem_cons.mp h
    obtain ⟨parts, positions, literals, accounts, warnings⟩ := ih others
    cases offered : offer item with
    -- what is no part leaves no trace, so that the parts so far stay as they are
    | none =>
      obtain ⟨nothing, silent⟩ : (run item).found.map part = none ∧ _ := by
        simpa only [ExplainsOffer, offered] using first
      refine ⟨parts, ?_, ?_, accounts, ?_⟩
      · rw [List.filterMap_cons_none offered, positions]
      · simp only [List.filterMap_cons, Option.map_eq_none_iff.mp nothing, literals]
      · rw [List.flatMap_cons, mismatches_append, silent, warnings, List.nil_append]
    | some position =>
      obtain ⟨dropped, lack, account, here⟩ : service.Explains position _ _ := by
        simpa only [ExplainsOffer, offered] using first
      refine ⟨⟨position, (run item).found.map part, dropped, lack⟩ :: parts, ?_, ?_, ?_, ?_⟩
      · rw [List.filterMap_cons_some offered, List.map_cons, positions]
      · cases found : (run item).found <;> simp [found, literals]
      · exact List.forall_mem_cons.mpr ⟨account, accounts⟩
      · rw [List.flatMap_cons, List.flatMap_cons, mismatches_append, List.map_append, here,
          warnings]

theorem explains_of_parts {whole : Literal} (offer : α → Option Position) (part : β → Literal)
    (carries : service.Carries position.tag position.node position.value whole)
    (offered : items.filterMap offer = service.parts position)
    (literals : (items.filterMap fun item => (run item).found).map part = whole.parts)
    (h : ∀ item ∈ items, service.ExplainsOffer (offer item)
      ((run item).found.map part) (run item).warnings) :
    service.Explains position (some whole) (items.flatMap fun item => (run item).warnings) := by
  obtain ⟨parts, positions, kept, accounts, warnings⟩ := exists_parts h
  exact ⟨_, _, .kept parts carries (positions.trans offered) (kept.trans literals) accounts,
    warnings⟩

end

def Explained (service : Service) (value : Value) : Prop :=
  ∀ {tag node location}, service.Knows tag → (service.walk tag node location value).Succeeds →
    service.Explains ⟨location, tag, node, value⟩ (service.walk tag node location value).found
      (service.walk tag node location value).warnings

theorem explains_walk_leaf {value : Value} (leaf : tag.opens value = false)
    (known : service.Knows tag) :
    service.Explains ⟨location, tag, node, value⟩ (service.walk tag node location value).found
      (service.walk tag node location value).warnings := by
  rw [walk_of_not_opens leaf, found_walkLeaf]
  exact explains_leaf leaf known

theorem explains_list {element : Tag} {items : List Value}
    (known : service.Knows (.array element))
    (parts : ∀ item ∈ items, service.Explained item)
    (h : (service.walk (.array element) node location (.array items)).Succeeds) :
    service.Explains ⟨location, .array element, node, .array items⟩
      (service.walk (.array element) node location (.array items)).found
      (service.walk (.array element) node location (.array items)).warnings := by
  obtain ⟨succeeds, walked⟩ := Report.return_each_of_succeeds _ (walk_array ▸ h)
  rw [← walk_array] at walked
  have carries := carries_of_walk known (congrArg Report.outcome walked)
  rw [walked]
  refine explains_of_parts (some ∘ service.itemPosition element node location) id carries ?_
    (List.map_id _) fun item mem => ?_
  · rw [List.filterMap_eq_map]
    rfl
  · rw [Option.map_id]
    exact parts item.1 (List.fst_mem_of_mem_zipIdx mem) known (succeeds item mem)

theorem explains_entry {key value : Tag} {entry : String × Value}
    (known : service.Knows (.map key value)) (part : service.Explained entry.2)
    (h : (service.walkEntry key value location entry).Succeeds) :
    service.Explains (service.entryPosition key value location entry)
      ((service.walkEntry key value location entry).found.map (·.2))
      (service.walkEntry key value location entry).warnings := by
  obtain ⟨keyKnown, valueKnown⟩ := known
  unfold entryPosition
  cases accepted : service.leaf? key (mapKey key entry.1) with
  -- the value is not walked, so that only the key is accounted for
  | none =>
    have explained : service.Explains
        ⟨location ++ "." ++ entry.1, key, none, mapKey key entry.1⟩ _ _ :=
      explains_leaf (leaf_mapKey key entry.1) keyKnown
    rw [accepted] at explained
    rw [walkEntry_of_none accepted, Report.found_bind_of_ok outcome_walkLeaf,
      Report.warnings_bind_of_ok outcome_walkLeaf, Report.found_pure, Report.warnings_pure,
      List.append_nil]
    exact explained
  | some keyLiteral =>
    rw [walkEntry_of_some accepted, Report.succeeds_return_map] at h
    have explained := part valueKnown h
    rw [walkEntry_of_some accepted, Report.found_return_map, Report.warnings_return_map,
      Option.map_map]
    simpa only [Function.comp_def, Option.map_id_fun', id_eq] using explained

theorem explains_map {key value : Tag} {members : List (String × Value)}
    (known : service.Knows (.map key value))
    (parts : ∀ member ∈ members, service.Explained member.2)
    (h : (service.walk (.map key value) node location (.object members)).Succeeds) :
    service.Explains ⟨location, .map key value, node, .object members⟩
      (service.walk (.map key value) node location (.object members)).found
      (service.walk (.map key value) node location (.object members)).warnings := by
  obtain ⟨succeeds, walked⟩ := Report.return_each_of_succeeds _ (walk_map ▸ h)
  rw [← walk_map] at walked
  have carries := carries_of_walk known (congrArg Report.outcome walked)
  rw [walked]
  refine explains_of_parts (some ∘ service.entryPosition key value location) (·.2) carries ?_ rfl
    fun entry mem => ?_
  · rw [List.filterMap_eq_map]
    rfl
  · exact explains_entry known (parts entry (mem_of_mem_byName mem)) (succeeds entry mem)

theorem explains_member {name : String} {inner : Node} {member : String × Value}
    (part : service.Explained member.2)
    (h : (service.walkMember name inner location member).Succeeds) :
    service.ExplainsOffer (service.memberPosition? name inner location member)
      ((service.walkMember name inner location member).found.map (·.2))
      (service.walkMember name inner location member).warnings := by
  unfold walkMember memberPosition? at *
  cases offered : inner.properties.get? member.1 with
  | none => exact ⟨rfl, rfl⟩
  | some property =>
    simp only [offered] at h ⊢
    obtain ⟨field, resolved, walked⟩ := Report.succeeds_bind_iff.mp h
    have known := knows_of_nodeTag (nodeTag_of_resolveNode resolved)
    obtain ⟨dropped, lack, account, warnings⟩ := part known (Report.succeeds_return_map.mp walked)
    rw [Report.found_bind_of_ok resolved, Report.warnings_bind_of_ok resolved,
      Report.found_return_map, Report.warnings_return_map, Option.map_map]
    refine ⟨dropped, lack, ?_, ?_⟩
    · simpa [resolved, Except.toOption, Function.comp_def] using account
    · rw [mismatches_append, mismatches_resolveNode, warnings, List.nil_append]

theorem explains_message {name : String} {members : List (String × Value)}
    (parts : ∀ member ∈ members, service.Explained member.2)
    (h : (service.walk (.message name) node location (.object members)).Succeeds) :
    service.Explains ⟨location, .message name, node, .object members⟩
      (service.walk (.message name) node location (.object members)).found
      (service.walk (.message name) node location (.object members)).warnings := by
  obtain ⟨inner, found⟩ := messageNode_of_walk h
  obtain ⟨succeeds, walked⟩ := Report.return_each_of_succeeds _ (walk_message_of_node found ▸ h)
  rw [← walk_message_of_node found] at walked
  have known : service.Knows (.message name) := trivial
  have carries := carries_of_walk known (congrArg Report.outcome walked)
  rw [walked]
  refine explains_of_parts (service.memberPosition? name inner location) (·.2) carries ?_ rfl
    fun member mem => ?_
  · simp only [Service.parts, found]
  · exact explains_member (parts member (mem_of_mem_byName mem)) (succeeds member mem)

theorem explained (value : Value) : service.Explained value := by
  induction value using Value.induct with
  | null | bool | number | string =>
    intro tag node location known _
    exact explains_walk_leaf (by cases tag <;> rfl) known
  | array items ih =>
    intro tag node location known h
    cases tag with
    | array element => exact explains_list known ih h
    | _ => exact explains_walk_leaf rfl known
  | object members ih =>
    intro tag node location known h
    cases tag with
    | map key value => exact explains_map known ih h
    | message name => exact explains_message ih h
    | json =>
      have carries : service.Carries .json node (.object members) (.json (.object members)) := .json
      refine ⟨_, _, .kept [] carries rfl rfl (by simp), ?_⟩
      simp only [walk, Report.warnings_pure]
      rfl
    | _ => exact explains_walk_leaf rfl known

theorem count_mismatch (warnings : Diagnostics) :
    warnings.count WarningKind.mismatch.name = (mismatches warnings).length := by
  have same : ∀ warning ∈ warnings, (warning.kind.name == WarningKind.mismatch.name) = true ↔
      decide (warning.kind = .mismatch) = true := by
    intro warning _
    cases warning <;> simp [Warning.kind, WarningKind.name]
  rw [mismatches, ← List.countP_eq_length_filter, Diagnostics.count]
  exact List.countP_congr same

def rootPosition (type : String) (attributes : List (String × Value)) : Position :=
  ⟨type, .message type, none, .object attributes⟩

theorem messageLiteral_accounts {type : String} {attributes : List (String × Value)}
    (h : (service.messageLiteral type attributes).outcome = .ok literal) :
    ∃ dropped lack,
      service.Accounts (rootPosition type attributes) (some literal) dropped lack ∧
      mismatches (service.messageLiteral type attributes).warnings = dropped.map (·.warning) ∧
      Diagnostics.count (service.messageLiteral type attributes).warnings
        WarningKind.mismatch.name = lack := by
  have walked := walk_of_messageLiteral h
  have known : service.Knows (.message type) := trivial
  have explained := explained (.object attributes) known ⟨_, congrArg Report.outcome walked⟩
  rw [walked] at explained
  obtain ⟨dropped, lack, account, warnings⟩ := explained
  refine ⟨dropped, lack, account, warnings, ?_⟩
  rw [count_mismatch, warnings, List.length_map, account.length_dropped]
  rfl

set_option maxRecDepth 8000 in
theorem notes_accounts :
    (notes.messageLiteral "Note" noteAttributes).outcome = .ok noteLiteral ∧
      ∃ dropped lack,
        notes.Accounts (rootPosition "Note" noteAttributes) (some noteLiteral) dropped lack ∧
        mismatches (notes.messageLiteral "Note" noteAttributes).warnings =
          dropped.map (·.warning) ∧
        Diagnostics.count (notes.messageLiteral "Note" noteAttributes).warnings
          WarningKind.mismatch.name = lack :=
  have h : (notes.messageLiteral "Note" noteAttributes).outcome = .ok noteLiteral := rfl
  ⟨h, messageLiteral_accounts h⟩

set_option maxRecDepth 8000 in
example : mismatches (notes.messageLiteral "Note" noteAttributes).warnings = [
    .mismatch "Note.parent.tags[1]" "string" "null",
    .mismatch "Note.ratings.2" "enum Rating" "string",
    .mismatch "Note.ratings.one" "int32" "string"] := by
  rfl

end Service

end Typesmith
