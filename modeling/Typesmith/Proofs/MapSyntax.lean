import Typesmith.Proofs.DistinctKeys
import Typesmith.Proofs.Quoting

/-! # Maps in TypeScript

A map is declared by an index signature, whose key must be a string or a number, and written with a
property for each entry, whose name must be a string, an identifier or a number without a sign. Maps
by truth values break the first rule, and entries of negative integers the second.
-/

namespace Typesmith

open Json (Value)
open OpenApi (Node)

def Literal.IsNegative (literal : Literal) : Prop :=
  ∃ n : Int, n < 0 ∧ literal = .number (toString n)

namespace Synthesis.TypeScript

/-- The types that an index signature may have for its key. -/
def IsIndexType (type : String) : Prop :=
  type = "string" ∨ type = "number"

def isLetter (c : Char) : Bool :=
  c.isAlpha || c == '$' || c == '_'

def isLetterOrDigit (c : Char) : Bool :=
  isLetter c || c.isDigit

/-- The names that a property of an object may have. -/
inductive IsPropertyName : List Char → Prop

  | string {cs s} : Json.Tree.string? cs = some (some s, []) → IsPropertyName ('"' :: cs)

  | identifier {first rest} : isLetter first = true → rest.all isLetterOrDigit = true →
      IsPropertyName (first :: rest)

  | number {cs numeral} : Json.Tree.numeral? cs = some (numeral, []) →
      numeral.negative = false → IsPropertyName cs

variable {s : String}

theorem isIndexType_scalarType_iff (kind : ScalarKind) :
    IsIndexType (scalarType kind) ↔ kind ≠ .bool := by
  cases kind <;> simp [IsIndexType, scalarType]

theorem not_isIndexType_of_bracket {type : String} (mem : '[' ∈ type.toList) :
    ¬ IsIndexType type := by
  rintro (rfl | rfl) <;> exact absurd mem (by decide)

theorem isIndexType_typeName_iff (tag : Tag) : IsIndexType (typeName tag) ↔
    (∃ kind, tag = .scalar kind ∧ kind ≠ .bool) ∨
      ∃ name, (tag = .message name ∨ tag = .enum name) ∧ IsIndexType name := by
  cases tag with
  | scalar kind => simp [typeName, isIndexType_scalarType_iff]
  | message name => simp [typeName]
  | enum name => simp [typeName]
  | array element => simpa using not_isIndexType_of_bracket (by simp [typeName])
  | map key value => simpa using not_isIndexType_of_bracket (by simp [typeName])
  | json => simpa using not_isIndexType_of_bracket (by simp [typeName])
  | any => simp [typeName, IsIndexType]

theorem isPropertyName_quoteDouble : IsPropertyName (Text.quoteDouble s).toList := by
  rw [Text.quoteDouble, String.toList_ofList, List.cons_append]
  exact .string Json.Tree.string?_flatMap

theorem isPropertyName_boolText (b : Bool) : IsPropertyName (Value.boolText b).toList := by
  cases b <;> exact .identifier (by decide) (by decide)

theorem not_isPropertyName_minus {cs : List Char} : ¬ IsPropertyName ('-' :: cs) := by
  intro h
  cases h with
  | identifier letter => exact absurd letter (by decide)
  | number read unsigned =>
    obtain ⟨text, n, tail, same, written⟩ := Json.Tree.numeral?_eq_some read
    obtain ⟨c, ds, digits, digit⟩ := Json.exists_head_toDigits n
    rw [written.text_eq, unsigned, digits] at same
    obtain ⟨rfl, -⟩ := List.cons.inj same
    exact absurd digit (by decide)

theorem isPropertyName_toString_iff (n : Int) :
    IsPropertyName (toString n).toList ↔ 0 ≤ n := by
  obtain ⟨negative, m, rfl, sign⟩ := Json.exists_signed n
  rw [← Json.signText_append_toDigits sign]
  cases negative with
  | false =>
    have read := @Json.Tree.numeral?_of_plain [] false m nofun
    rw [List.append_nil] at read
    exact iff_of_true (.number read rfl) (by simp [Json.signed])
  | true =>
    have nonzero : m ≠ 0 := sign rfl
    exact iff_of_false not_isPropertyName_minus (by simp [Json.signed]; omega)

theorem isPropertyName_key_iff {service : Service} {key : Tag} {name : String} {literal : Literal}
    (h : service.IsKey key name literal) :
    IsPropertyName (render literal).toList ↔ ¬ literal.IsNegative := by
  cases h with
  | @integer kind name n integer spelled fits =>
    rw [render, isPropertyName_toString_iff]
    constructor
    · rintro nonneg ⟨m, negative, same⟩
      rw [Service.toString_inj.mp (Literal.number.inj same)] at nonneg
      omega
    · exact fun h => Int.not_lt.mp fun negative => h ⟨n, negative, rfl⟩
  | bool b => exact iff_of_true (isPropertyName_boolText b) nofun
  | text => exact iff_of_true isPropertyName_quoteDouble nofun
  | enum => exact iff_of_true isPropertyName_quoteDouble nofun
  | any => exact iff_of_true isPropertyName_quoteDouble nofun

theorem key_of_isNegative {service : Service} {key : Tag} {name : String} {literal : Literal}
    (h : service.IsKey key name literal) (negative : literal.IsNegative) :
    key = .scalar .int32 ∨ key = .scalar .int64 := by
  obtain ⟨m, below, rfl⟩ := negative
  generalize same : Literal.number (toString m) = literal at h
  cases h with
  | @integer kind name n integer spelled fits =>
    obtain rfl := Service.toString_inj.mp (Literal.number.inj same)
    cases kind with
    | int32 => exact .inl rfl
    | int64 => exact .inr rfl
    | uint32 | uint64 => simp [ScalarKind.holds, ScalarKind.range?] at fits; omega
    | _ => cases integer
  | _ => cases same

theorem renderEntries_eq {entries : List (Literal × Literal)} :
    renderEntries entries = entries.map fun entry => render entry.1 ++ ": " ++ render entry.2 := by
  induction entries with
  | nil => rfl
  | cons entry rest ih => rw [renderEntries, List.map_cons, ih]

end Synthesis.TypeScript

namespace Service

open Synthesis.TypeScript

variable {service : Service} {message name : String} {declared : Node} {required : Bool}
  {field : Field} {key value : Tag}

/-- The index signature of a map is legal exactly if its key is a scalar other than a truth value, or
goes by the name of one of the two types. The name of a property is legal exactly if it is not an
integer below zero, which only keys of the signed kinds can be. -/
theorem map_syntax
    (h : (service.resolveNode message name declared required).outcome = .ok field)
    (is_map : field.tag = .map key value) :
    typeName field.tag = "\x7b [key: " ++ typeName key ++ "]: " ++ typeName value ++ " \x7d" ∧
    (IsIndexType (typeName key) ↔ (∃ kind, key = .scalar kind ∧ kind ≠ .bool) ∨
      ∃ name, (key = .message name ∨ key = .enum name) ∧ IsIndexType name) ∧
    ∀ node location given literal,
      (service.walk field.tag node location given).outcome = .ok (some literal) →
      ∃ entries, literal = .map key value entries ∧
        render literal = block "\x7b"
          (entries.map fun entry => render entry.1 ++ ": " ++ render entry.2) "\x7d" ∧
        ∀ entry ∈ entries,
          (IsPropertyName (render entry.1).toList ↔ ¬ entry.1.IsNegative) ∧
          (entry.1.IsNegative → key = .scalar .int32 ∨ key = .scalar .int64) := by
  have known := knows_of_nodeTag (nodeTag_of_resolveNode h)
  rw [is_map] at known ⊢
  refine ⟨rfl, isIndexType_typeName_iff key, fun node location given literal walked => ?_⟩
  cases carries_of_walk known walked with
  | map kept sub keys carries =>
    refine ⟨_, rfl, ?_, fun entry mem => ?_⟩
    · rw [render, renderEntries_eq]
    · obtain ⟨part, kept_mem, rfl⟩ := List.mem_map.mp mem
      have read := leaf?_of_carries (leaf_mapKey key part.1.1) (keys part kept_mem)
      have is_key := isKey_of_leaf? read
      exact ⟨isPropertyName_key_iff is_key, key_of_isNegative is_key⟩

def panels : Service where
  name := "panels"
  document := {
    schemas := .ofList [
      ("Panel", {
        kind := some "object"
        members := [
          ("labels", { kind := some "object" }),
          ("offsets", { kind := some "object" })] })] }
  descriptors := {
    package := "panels"
    pool := {
      messages := [
        { fullName := "panels.Panel"
          fields := [
            ⟨"labels", "labels", 1, .message "panels.Panel.LabelsEntry", true,
              some (.scalar .bool, .scalar .string), none⟩,
            ⟨"offsets", "offsets", 2, .message "panels.Panel.OffsetsEntry", true,
              some (.scalar .int32, .scalar .string), none⟩]
          isMapEntry := false },
        { fullName := "panels.Panel.LabelsEntry"
          fields := [
            ⟨"key", "key", 1, .scalar .bool, false, none, none⟩,
            ⟨"value", "value", 2, .scalar .string, false, none, none⟩]
          isMapEntry := true },
        { fullName := "panels.Panel.OffsetsEntry"
          fields := [
            ⟨"key", "key", 1, .scalar .int32, false, none, none⟩,
            ⟨"value", "value", 2, .scalar .string, false, none, none⟩]
          isMapEntry := true }] } }
  dynamicTypes := []

def panelLabels : Field :=
  { name := "labels", tag := .map (.scalar .bool) (.scalar .string) }

def panelOffsets : Field :=
  { name := "offsets", tag := .map (.scalar .int32) (.scalar .string) }

def offsetsExample : Value :=
  .object [("-1", .string "a"), ("1", .string "b")]

def offsetsLiteral : Literal :=
  .map (.scalar .int32) (.scalar .string)
    [(.number "-1", .string "a"), (.number "1", .string "b")]

theorem panels_offsets_syntax :
    (panels.resolveNode "Panel" "offsets" { kind := some "object" } false).outcome =
        .ok panelOffsets ∧
      IsIndexType "number" ∧
      (panels.walk panelOffsets.tag none "offsets" offsetsExample).outcome =
        .ok (some offsetsLiteral) ∧
      IsPropertyName (render (.number "1")).toList := by
  have h : (panels.resolveNode "Panel" "offsets" { kind := some "object" } false).outcome =
    .ok panelOffsets := rfl
  have walked : (panels.walk panelOffsets.tag none "offsets" offsetsExample).outcome =
    .ok (some offsetsLiteral) := rfl
  obtain ⟨-, index, names⟩ := map_syntax h rfl
  obtain ⟨entries, same, -, legal⟩ := names none "offsets" offsetsExample offsetsLiteral walked
  cases same
  refine ⟨h, index.mpr (.inl ⟨.int32, rfl, by decide⟩), walked, ?_⟩
  refine (legal _ (.tail _ (.head _))).1.mpr ?_
  rintro ⟨n, negative, same⟩
  have one : "1" = toString (1 : Int) := by decide
  obtain rfl : 1 = n := toString_inj.mp (one.symm.trans (Literal.number.inj same))
  omega

/-- The type of the labels has an index signature by truth values, and the first of the offsets is a
property with a minus sign in its name. -/
theorem panels_maps_illegal :
    (panels.resolveNode "Panel" "labels" { kind := some "object" } false).outcome =
        .ok panelLabels ∧
      typeName panelLabels.tag = "\x7b [key: boolean]: string \x7d" ∧
      ¬ IsIndexType "boolean" ∧
      (panels.resolveNode "Panel" "offsets" { kind := some "object" } false).outcome =
        .ok panelOffsets ∧
      (panels.walk panelOffsets.tag none "offsets" offsetsExample).outcome =
        .ok (some offsetsLiteral) ∧
      render offsetsLiteral = "\x7b\n-1: \"a\",\n1: \"b\",\n\x7d" ∧
      ¬ IsPropertyName "-1".toList :=
  ⟨rfl, by decide +kernel, by simp [IsIndexType], rfl, rfl, by decide +kernel,
    @not_isPropertyName_minus ['1']⟩

end Service

end Typesmith
