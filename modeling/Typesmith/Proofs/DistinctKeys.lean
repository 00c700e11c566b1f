import Mathlib.Data.List.Nodup
import Typesmith.Proofs.Accounts
import Typesmith.Proofs.Keys
import Typesmith.Proofs.RawJson

/-! # Distinct keys

The keys of a map literal come from the names of one object of the example. Two of them are equal,
as literals and in each language, exactly where their names spell the same integer.
-/

namespace Typesmith

open Json (Value)
open OpenApi (Node)

/-- A literal is another one or a part of it, at any depth. -/
inductive Literal.IsIn (inner : Literal) : Literal → Prop
  | here : IsIn inner inner
  | part {part whole} : part ∈ whole.parts → IsIn inner part → IsIn inner whole

inductive Json.Value.IsIn (inner : Value) : Value → Prop
  | here : IsIn inner inner
  | item {item items} : item ∈ items → IsIn inner item → IsIn inner (.array items)
  | member {member members} : member ∈ members → IsIn inner member.2 →
      IsIn inner (.object members)

/-- Two names are keys for the same integer. -/
def SameInteger (key : Tag) (name other : String) : Prop :=
  ∃ kind n, key = .scalar kind ∧ kind.isInteger = true ∧ KeySpells kind name n ∧
    KeySpells kind other n

theorem KeySpells.unique {kind : ScalarKind} {s : String} {m n : Int} (h : KeySpells kind s m)
    (h' : KeySpells kind s n) : m = n := by
  have spells : ∀ {v}, KeySpells kind s v → ∃ other, Spells other (Text.trim s.toList) v := by
    rintro v (padded | ⟨-, spelled, -⟩)
    · exact ⟨.int64, trim_of_padded_toString padded ▸ spells_toString_int64 v⟩
    · exact ⟨kind, spelled⟩
  obtain ⟨_, spelled⟩ := spells h
  obtain ⟨_, spelled'⟩ := spells h'
  exact spelled.unique spelled'

namespace Service

variable (service : Service)

/-- The literals of keys, by the name of the entry. -/
inductive IsKey : Tag → String → Literal → Prop

  | integer {kind name n} : kind.isInteger = true → KeySpells kind name n → kind.holds n = true →
      IsKey (.scalar kind) name (.number (toString n))

  | bool (b : Bool) : IsKey (.scalar .bool) (Value.boolText b) (.bool b)

  | text {kind name} : kind = .string ∨ kind = .bytes → IsKey (.scalar kind) name (.string name)

  | enum {enum name} : service.isEnumValue enum name = true →
      IsKey (.enum enum) name (.enum enum name)

  | any {name} : IsKey .any name (.json (.string name))

variable {service} {key value : Tag} {name other : String} {literal literal' : Literal}

theorem mapKey_bool (name : String) :
    (∃ b, name = Value.boolText b ∧ mapKey (.scalar .bool) name = .bool b) ∨
      mapKey (.scalar .bool) name = .string name := by
  by_cases yes : name = "true"
  · exact .inl ⟨true, yes, by simp [mapKey, yes]⟩
  · by_cases no : name = "false"
    · exact .inl ⟨false, no, by simp [mapKey, no]⟩
    · exact .inr (by simp [mapKey, yes, no])

theorem isKey_of_leaf? (h : service.leaf? key (mapKey key name) = some literal) :
    service.IsKey key name literal := by
  cases key with
  | scalar kind =>
    by_cases integer : kind.isInteger = true
    · obtain ⟨n, spelled, fits, rfl⟩ := (leaf?_mapKey_eq_some_iff integer).mp h
      exact .integer integer spelled fits
    · cases kind with
      | bool =>
        obtain ⟨b, rfl, read⟩ | read := mapKey_bool name
        · rw [read] at h
          cases h
          exact .bool b
        · rw [read] at h
          cases h
      | string =>
        cases h
        exact .text (.inl rfl)
      | bytes =>
        cases h
        exact .text (.inr rfl)
      | float | double | number => cases h
      | int32 | int64 | uint32 | uint64 => exact absurd rfl integer
  | enum enum =>
    have read : (if service.isEnumValue enum name then some (Literal.enum enum name) else none) =
        some literal := h
    split at read
    · next declared =>
      cases read
      exact .enum declared
    · cases read
  | any =>
    cases h
    exact .any
  | array | map | message | json => cases h

theorem toString_inj {m n : Int} : toString m = toString n ↔ m = n := by
  refine ⟨fun same => ?_, congrArg _⟩
  have spelled := spells_toString_int64 m
  rw [same] at spelled
  exact spelled.unique (spells_toString_int64 n)

theorem IsKey.eq_iff (h : service.IsKey key name literal) (h' : service.IsKey key other literal')
    (distinct : name ≠ other) : literal = literal' ↔ SameInteger key name other := by
  constructor
  · rintro rfl
    cases h with
    | @integer kind _ n integer spelled _ =>
      -- the text of the other integer is no pattern, so the equation is kept aside
      generalize same : Literal.number (toString n) = literal at h'
      cases h' with
      | integer _ spelled' _ =>
        obtain rfl := toString_inj.mp (Literal.number.inj same)
        exact ⟨kind, n, rfl, integer, spelled, spelled'⟩
      | _ => cases same
    | _ =>
      cases h'
      exact absurd rfl distinct
  · rintro ⟨kind, n, rfl, integer, spelled, spelled'⟩
    have number : ∀ {name literal}, service.IsKey (.scalar kind) name literal →
        KeySpells kind name n → literal = .number (toString n) := by
      intro name literal key spells
      cases key with
      | integer _ spelled _ => rw [spelled.unique spells]
      | bool => cases integer
      | text kind => obtain rfl | rfl := kind <;> cases integer
    rw [number h spelled, number h' spelled']

end Service

namespace Target

variable (target : Target) {s s' : String}

@[simp] theorem quote_inj : target.language.jsonStyle.quote s = target.language.jsonStyle.quote s' ↔
    s = s' := by
  refine ⟨fun same => ?_, congrArg _⟩
  have read := target.language.readable_jsonStyle.quote s []
  rw [same, target.language.readable_jsonStyle.quote s' []] at read
  exact (Prod.mk.inj (Option.some.inj read)).1.symm

@[simp] theorem renderLiteral_number : target.renderLiteral (.number s) = s := by
  unfold renderLiteral
  cases target.language <;> rfl

@[simp] theorem renderLiteral_bool (b : Bool) : target.renderLiteral (.bool b) = Value.boolText b := by
  unfold renderLiteral
  cases target.language <;> rfl

@[simp] theorem renderLiteral_string :
    target.renderLiteral (.string s) = target.language.jsonStyle.quote s := by
  unfold renderLiteral
  cases target.language <;> rfl

@[simp] theorem renderLiteral_json_string :
    target.renderLiteral (.json (.string s)) = target.language.jsonStyle.quote s := by
  unfold renderLiteral
  cases target.language <;> rfl

@[simp] theorem renderLiteral_enum_inj {enum : String} :
    target.renderLiteral (.enum enum s) = target.renderLiteral (.enum enum s') ↔ s = s' := by
  obtain ⟨language, package⟩ := target
  cases language with
  | go => exact quote_inj ⟨.go, package⟩
  | typescript => exact quote_inj ⟨.typescript, package⟩
  | dart =>
    change enum ++ "." ++ s = enum ++ "." ++ s' ↔ s = s'
    rw [String.append_right_inj]

theorem renderLiteral_key_inj {service : Service} {key : Tag} {name other : String}
    {literal literal' : Literal} (h : service.IsKey key name literal)
    (h' : service.IsKey key other literal') :
    target.renderLiteral literal = target.renderLiteral literal' ↔ literal = literal' := by
  refine ⟨fun same => ?_, congrArg _⟩
  cases h with
  | integer integer =>
    cases h' with
    | integer => simpa using same
    | bool => cases integer
    | text kind => obtain rfl | rfl := kind <;> cases integer
  | bool b =>
    cases h' with
    | integer integer => cases integer
    | bool b' =>
      rw [renderLiteral_bool, renderLiteral_bool] at same
      cases b <;> cases b' <;> first | rfl | exact absurd same (by decide)
    | text kind => obtain h | h := kind <;> cases h
  | text kind =>
    cases h' with
    | integer integer => obtain rfl | rfl := kind <;> cases integer
    | bool => obtain h | h := kind <;> cases h
    | text => simpa using same
  | enum =>
    cases h' with
    | enum => simpa using same
  | any =>
    cases h' with
    | any => simpa using same

end Target

namespace Service

variable {service : Service} {tag key value : Tag} {node : Option Node} {whole : Value}
  {literal : Literal} {entries : List (Literal × Literal)}

theorem exists_object_of_isIn (inside : Literal.IsIn (.map key value entries) literal)
    (h : service.Carries tag node whole literal) :
    ∃ node members, Value.IsIn (.object members) whole ∧
      service.Carries (.map key value) node (.object members) (.map key value entries) := by
  -- the value goes down to its parts along with the literal
  induction inside generalizing tag node whole with
  | here =>
    cases h with
    | map kept sub keys carries => exact ⟨node, _, .here, .map kept sub keys carries⟩
  | part mem _ ih =>
    cases h with
    | list kept sub carries =>
      obtain ⟨part, kept_mem, rfl⟩ := List.mem_map.mp mem
      obtain ⟨node, members, within, found⟩ := ih (carries part kept_mem)
      exact ⟨node, members, .item (sub.mem (List.mem_map_of_mem kept_mem)) within, found⟩
    | map kept sub keys carries =>
      obtain ⟨entry, entry_mem, rfl⟩ := List.mem_map.mp mem
      obtain ⟨part, kept_mem, rfl⟩ := List.mem_map.mp entry_mem
      obtain ⟨node, members, within, found⟩ := ih (carries part kept_mem)
      have offered := mem_of_mem_byName (sub.mem (List.mem_map_of_mem kept_mem))
      exact ⟨node, members, .member offered within, found⟩
    | message kept found sub increasing properties resolved carries =>
      obtain ⟨field, field_mem, rfl⟩ := List.mem_map.mp mem
      obtain ⟨part, kept_mem, rfl⟩ := List.mem_map.mp field_mem
      obtain ⟨node, members, within, found⟩ := ih (carries part kept_mem)
      have offered := mem_of_mem_byName (sub.mem (List.mem_map_of_mem kept_mem))
      exact ⟨node, members, .member offered within, found⟩
    | _ => cases mem

/-- The keys of a map literal are read from keys of its example, in order. -/
theorem exists_names {members : List (String × Value)}
    (h : service.Carries (.map key value) node (.object members) (.map key value entries)) :
    ∃ names : List String, names.Sublist ((byName members).map (·.1)) ∧
      names.map (fun name => service.leaf? key (mapKey key name)) =
        entries.map fun entry => some entry.1 := by
  cases h with
  | map kept sub keys carries =>
    refine ⟨(kept.map (·.1)).map (·.1), sub.map _, ?_⟩
    simp only [List.map_map]
    exact List.map_congr_left fun part mem =>
      leaf?_of_carries (leaf_mapKey key part.1.1) (keys part mem)

section

variable {names : List String} {keys : List Literal}
  (read : names.map (fun name => service.leaf? key (mapKey key name)) = keys.map some)
include read

theorem exists_isKey {literal : Literal} (mem : literal ∈ keys) :
    ∃ name, service.IsKey key name literal := by
  have mem_read := List.mem_map_of_mem (f := some) mem
  rw [← read] at mem_read
  obtain ⟨name, -, found⟩ := List.mem_map.mp mem_read
  exact ⟨name, isKey_of_leaf? found⟩

theorem leaf?_mapKey_eq_iff {name other : String} (mem : name ∈ names) (mem' : other ∈ names)
    (ne : name ≠ other) :
    service.leaf? key (mapKey key name) = service.leaf? key (mapKey key other) ↔
      SameInteger key name other := by
  have is_key : ∀ name ∈ names, ∃ literal, service.leaf? key (mapKey key name) = some literal := by
    intro name mem
    have mem_read := List.mem_map_of_mem (f := fun name => service.leaf? key (mapKey key name)) mem
    rw [read] at mem_read
    obtain ⟨literal, -, found⟩ := List.mem_map.mp mem_read
    exact ⟨literal, found.symm⟩
  obtain ⟨literal, found⟩ := is_key name mem
  obtain ⟨literal', found'⟩ := is_key other mem'
  rw [found, found', Option.some.injEq]
  exact (isKey_of_leaf? found).eq_iff (isKey_of_leaf? found') ne

theorem nodup_keys_iff (distinct : names.Nodup) :
    keys.Nodup ↔ names.Pairwise fun name other => ¬ SameInteger key name other := by
  rw [← List.nodup_map_iff (fun _ _ => Option.some.inj), ← read, List.Nodup, List.pairwise_map]
  constructor
  · intro different
    refine (different.and distinct).imp_of_mem fun mem mem' ⟨ne, names_ne⟩ same => ?_
    exact ne ((leaf?_mapKey_eq_iff read mem mem' names_ne).mpr same)
  · intro spelled
    refine (spelled.and distinct).imp_of_mem fun mem mem' ⟨ne, names_ne⟩ same => ?_
    exact ne ((leaf?_mapKey_eq_iff read mem mem' names_ne).mp same)

theorem nodup_rendered_iff (target : Target) :
    (keys.map target.renderLiteral).Nodup ↔ keys.Nodup := by
  refine ⟨List.Nodup.of_map _, List.Nodup.map_on fun literal mem literal' mem' same => ?_⟩
  obtain ⟨name, is_key⟩ := exists_isKey read mem
  obtain ⟨other, is_key'⟩ := exists_isKey read mem'
  exact (target.renderLiteral_key_inj is_key is_key').mp same

end

/-- Each map literal carries an object of the example, and its keys are read from names of that
object. They are pairwise different, as literals and in every language, exactly if no two of these
names spell the same integer. -/
theorem messageLiteral_nodup_keys_iff {type : String} {attributes : List (String × Value)}
    (h : (service.messageLiteral type attributes).outcome = .ok literal)
    (inside : Literal.IsIn (.map key value entries) literal) :
    ∃ node members, Value.IsIn (.object members) (.object attributes) ∧
      service.Carries (.map key value) node (.object members) (.map key value entries) ∧
      ∃ names : List String, names.Sublist ((byName members).map (·.1)) ∧
        names.map (fun name => service.leaf? key (mapKey key name)) =
          entries.map (fun entry => some entry.1) ∧
        ((entries.map (·.1)).Nodup ↔
          names.Pairwise fun name other => ¬ SameInteger key name other) ∧
        ∀ target : Target, (entries.map fun entry => target.renderLiteral entry.1).Nodup ↔
          names.Pairwise fun name other => ¬ SameInteger key name other := by
  obtain ⟨node, members, within, carries⟩ := exists_object_of_isIn inside (messageLiteral_carries h)
  obtain ⟨names, sub, read⟩ := exists_names carries
  have keys_read : names.map (fun name => service.leaf? key (mapKey key name)) =
      (entries.map (·.1)).map some := by
    rw [read, List.map_map]
    rfl
  have distinct_iff := nodup_keys_iff keys_read ((Dict.ofList members).nodup_keys.sublist sub)
  refine ⟨node, members, within, carries, names, sub, read, distinct_iff, fun target => ?_⟩
  rw [← distinct_iff, ← nodup_rendered_iff keys_read target, List.map_map]
  rfl

def ratingsApart : List (String × Value) := [
  ("ratings", .object [("2", .string "NONE"), ("1", .string "GOOD")])]

def ratingsApartEntries : List (Literal × Literal) := [
  (.number "1", .enum "Rating" "GOOD"), (.number "2", .enum "Rating" "NONE")]

/-- A rating by one number, with and without white space before it. -/
def ratingsTwice : List (String × Value) := [
  ("ratings", .object [("1", .string "GOOD"), (" 1", .string "NONE")])]

def ratingsTwiceEntries : List (Literal × Literal) := [
  (.number "1", .enum "Rating" "NONE"), (.number "1", .enum "Rating" "GOOD")]

def ratings (entries : List (Literal × Literal)) : Literal :=
  .map (.scalar .int32) (.enum "Rating") entries

def ratedNote (entries : List (Literal × Literal)) : Literal :=
  .message "Note" [("ratings", ratings entries)]

set_option maxRecDepth 8000 in
/-- Two numbers stay apart in every language, and one number does not. -/
theorem notes_nodup_keys :
    ((notes.messageLiteral "Note" ratingsApart).outcome = .ok (ratedNote ratingsApartEntries) ∧
      Literal.IsIn (ratings ratingsApartEntries) (ratedNote ratingsApartEntries) ∧
      (ratingsApartEntries.map (·.1)).Nodup ∧
      ∀ target : Target,
        (ratingsApartEntries.map fun entry => target.renderLiteral entry.1).Nodup) ∧
    (notes.messageLiteral "Note" ratingsTwice).outcome = .ok (ratedNote ratingsTwiceEntries) ∧
      Literal.IsIn (ratings ratingsTwiceEntries) (ratedNote ratingsTwiceEntries) ∧
      ∃ names : List String,
        names.map (fun name => notes.leaf? (.scalar .int32) (mapKey (.scalar .int32) name)) =
          [some (.number "1"), some (.number "1")] ∧
        ¬ names.Pairwise (fun name other => ¬ SameInteger (.scalar .int32) name other) ∧
        ∀ target : Target,
          ¬ (ratingsTwiceEntries.map fun entry => target.renderLiteral entry.1).Nodup := by
  have apart : (notes.messageLiteral "Note" ratingsApart).outcome =
      .ok (ratedNote ratingsApartEntries) := rfl
  have twice : (notes.messageLiteral "Note" ratingsTwice).outcome =
      .ok (ratedNote ratingsTwiceEntries) := rfl
  have part (entries : List (Literal × Literal)) :
      Literal.IsIn (ratings entries) (ratedNote entries) := .part List.mem_cons_self .here
  refine ⟨⟨apart, part _, ?_⟩, twice, part _, ?_⟩
  · have different : (ratingsApartEntries.map (·.1)).Nodup := by
      simp [ratingsApartEntries]
    obtain ⟨_, _, -, -, _, -, -, distinct_iff, rendered_iff⟩ :=
      messageLiteral_nodup_keys_iff apart (part _)
    exact ⟨different, fun target => (rendered_iff target).mpr (distinct_iff.mp different)⟩
  · have same : ¬ (ratingsTwiceEntries.map (·.1)).Nodup := by
      simp [ratingsTwiceEntries]
    obtain ⟨_, _, -, -, names, -, read, distinct_iff, rendered_iff⟩ :=
      messageLiteral_nodup_keys_iff twice (part _)
    exact ⟨names, read, mt distinct_iff.mpr same,
      fun target apart => same (distinct_iff.mpr ((rendered_iff target).mp apart))⟩

set_option maxRecDepth 8000 in
theorem notes_ratings_twice :
    (notes.messageLiteral "Note" ratingsTwice).outcome = .ok (.message "Note" [
        ("ratings", .map (.scalar .int32) (.enum "Rating") ratingsTwiceEntries)]) ∧
      Literal.IsIn (.map (.scalar .int32) (.enum "Rating") ratingsTwiceEntries)
        (.message "Note" [
          ("ratings", .map (.scalar .int32) (.enum "Rating") ratingsTwiceEntries)]) ∧
      ¬ (ratingsTwiceEntries.map (·.1)).Nodup :=
  ⟨rfl, .part List.mem_cons_self .here, by simp [ratingsTwiceEntries]⟩

end Service

end Typesmith
