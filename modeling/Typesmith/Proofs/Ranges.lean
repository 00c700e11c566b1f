import Mathlib.Algebra.Group.Int.Defs
import Typesmith.Proofs.DistinctKeys

/-! # Integers and their ranges

An integer in canonical decimal form is admitted exactly where it is in the range of the kind, and
it is never changed. No integer kind admits a double: to JSON that is a number out of the range of
64 bits, one with a fraction or an exponent, or zero with a minus sign.
-/

namespace Typesmith

open Json (Value Padded InRange Number)
open OpenApi (Node)

namespace ScalarKind

variable {kind : ScalarKind} {v : Int} {literal : Literal}

/-- The integers of a kind, by its width in bits. -/
def Spans : ScalarKind → Int → Prop
  | int32, v => -2 ^ 31 ≤ v ∧ v < 2 ^ 31
  | int64, v => -2 ^ 63 ≤ v ∧ v < 2 ^ 63
  | uint32, v => 0 ≤ v ∧ v < 2 ^ 32
  | uint64, v => 0 ≤ v ∧ v < 2 ^ 64
  | _, _ => False

theorem holds_iff : kind.holds v = true ↔ kind.Spans v := by
  cases kind <;> simp [holds, range?, Spans] <;> omega

instance : Decidable (kind.Spans v) :=
  decidable_of_iff (kind.holds v = true) holds_iff

/-- An integer as a literal, unchanged, if the kind has it. -/
def literal? (kind : ScalarKind) (v : Int) : Option Literal :=
  if kind.Spans v then some (.number (toString v)) else none

theorem literal?_eq_some_iff :
    kind.literal? v = some literal ↔ kind.holds v = true ∧ .number (toString v) = literal := by
  rw [literal?, Option.ite_none_right_eq_some, Option.some.injEq, holds_iff]

theorem literal?_eq_none (out : ¬ kind.Spans v) : kind.literal? v = none :=
  if_neg out

end ScalarKind

namespace Json

variable {numeral : Numeral} {text tail rest cs : List Char} {n : Nat} {x : Number}

theorem exists_double_of_integer? (whole : numeral.integer? = none)
    (number : numeral.number? = some x) : ∃ d, x = .double d := by
  rw [Numeral.number?, whole] at number
  obtain ⟨d, -, rfl⟩ := Option.map_eq_some_iff.mp number
  exact ⟨d, rfl⟩

/-- The decimal form of an integer is read as that integer, if it is in the range of 64 bits; if
not, as a double, or as a number that no value has. -/
theorem exists_read?_toString (v : Int) : ∃ found : Option Number,
    (∀ steps rest, Tree.EndsNumeral rest →
      Tree.read? (steps + 1) ((toString v).toList ++ rest) = some (.number found, rest)) ∧
    (InRange v → found = some (.integer v)) ∧
    (¬ InRange v → ∀ x ∈ found, ∃ d, x = .double d) := by
  obtain ⟨negative, n, rfl, sign⟩ := exists_signed v
  let numeral : Numeral := ⟨negative, Tree.digitValues n, none, none⟩
  have integer (w : Int) : numeral.integer? = some w ↔ _ := integer?_eq_some_iff rfl
  refine ⟨numeral.number?, ?_, ?_, ?_⟩
  · intro steps rest ends
    have read := Tree.numeral?_of_plain negative n ends
    rw [← signText_append_toDigits sign]
    refine Tree.read?_eq_number_iff.mpr ⟨_, ?_, rfl⟩
    rw [Tree.skipSpace_of_numeral? read, read]
  · intro range
    rw [Numeral.number?, (integer _).mpr ⟨rfl, rfl, range, sign⟩]
  · intro out x number
    refine exists_double_of_integer? (Option.eq_none_iff_forall_ne_some.mpr ?_) number
    intro w whole
    obtain ⟨-, rfl, range, -⟩ := (integer w).mp whole
    exact out range

theorem parse?_of_read? {s : String} {found : Option Number}
    (h : ∀ steps, Tree.read? (steps + 1) s.toList = some (.number found, [])) :
    Value.parse? s = found.map .number := by
  rw [Value.parse?, Tree.parse?, h]
  rfl

theorem not_isMark_of_mem_integer {negative : Bool} {c : Char}
    (mem : c ∈ Tree.signText negative ++ Nat.toDigits 10 n) : ¬ Tree.IsMark c := by
  rcases List.mem_append.mp mem with sign | digit
  · cases negative with
    | false => cases sign
    | true =>
      obtain rfl := List.mem_singleton.mp sign
      simp [Tree.IsMark]
  · have digit : c.isDigit = true := Nat.isDigit_of_mem_toDigits (by decide) (by decide) digit
    rintro (rfl | rfl | rfl) <;> simp at digit

theorem integer?_of_mark (written : Tree.Writes numeral text n tail)
    (marked : ∃ c ∈ text, Tree.IsMark c) : numeral.integer? = none := by
  refine Option.eq_none_iff_forall_ne_some.mpr fun v whole => ?_
  obtain ⟨plain, -⟩ := (integer?_eq_some_iff written.whole).mp whole
  obtain ⟨-, rfl⟩ | ⟨marked, -⟩ := written.plain_or_marked
  · obtain ⟨c, mem, mark⟩ := marked
    rw [written.text_eq, List.append_nil] at mem
    exact not_isMark_of_mem_integer mem mark
  · rw [plain] at marked
    cases marked

theorem mem_of_isMark {c : Char} (padded : Padded text cs) (mem : c ∈ cs) (mark : Tree.IsMark c) :
    c ∈ text := by
  obtain ⟨before, after, rfl, spaces, spaces'⟩ := padded
  obtain (space | mem) | space := by simpa only [List.mem_append] using mem
  · exact absurd mark (Tree.not_in_numeral_of_isSpace (spaces c space)).2.2
  · exact mem
  · exact absurd mark (Tree.not_in_numeral_of_isSpace (spaces' c space)).2.2

theorem exists_double_of_mark (marked : ∃ c ∈ cs, Tree.IsMark c) (padded : Padded text cs)
    (written : Tree.Writes numeral text n tail) (number : numeral.number? = some x) :
    ∃ d, x = .double d := by
  obtain ⟨c, mem, mark⟩ := marked
  have marked : ∃ c ∈ text, Tree.IsMark c := ⟨c, mem_of_isMark padded mem mark, mark⟩
  exact exists_double_of_integer? (integer?_of_mark written marked) number

theorem double_of_read?_mark {steps : Nat} (marked : ∃ c ∈ cs, Tree.IsMark c)
    (h : Tree.read? steps (cs ++ rest) = some (.number (some x), rest)) : ∃ d, x = .double d := by
  obtain _ | steps := steps
  · cases h
  obtain ⟨numeral, read, number⟩ := Tree.read?_eq_number_iff.mp h
  obtain ⟨before, split, spaces⟩ := Tree.exists_padding (cs ++ rest)
  obtain ⟨text, n, tail, same, written⟩ := Tree.numeral?_eq_some read
  rw [same, ← List.append_assoc] at split
  obtain rfl := List.append_cancel_right split
  have padded : Padded text (before ++ text) := ⟨before, [], by simp, spaces, nofun⟩
  exact exists_double_of_mark marked padded written number

theorem double_of_parse?_mark {s : String} (marked : ∃ c ∈ s.toList, Tree.IsMark c)
    (h : Value.parse? s = some (.number x)) : ∃ d, x = .double d := by
  obtain ⟨numeral, text, n, tail, padded, written, number⟩ := padded_of_parse? h
  exact exists_double_of_mark marked padded written number

end Json

theorem padded_self {cs : List Char} : Padded cs cs :=
  ⟨[], [], by simp, nofun, nofun⟩

theorem keySpells_toString_iff {kind : ScalarKind} {v n : Int} :
    KeySpells kind (toString v) n ↔ v = n := by
  constructor
  · exact KeySpells.unique (.numeral padded_self)
  · rintro rfl
    exact .numeral padded_self

theorem Report.outcome_each_filter {α β : Type} {items : List α} {run : α → Report (Option β)}
    {p : α → Bool} (idle : ∀ item ∈ items, p item = false → (run item).outcome = .ok none) :
    (each (items.filter p) run).outcome = (each items run).outcome := by
  induction items with
  | nil => rfl
  | cons item rest ih =>
    obtain ⟨first, others⟩ := List.forall_mem_cons.mp idle
    rw [List.filter_cons, each]
    cases kept : p item with
    | true =>
      exact outcome_bind_congr rfl fun _ => outcome_bind_congr (ih others) fun _ => rfl
    | false =>
      rw [bind_of_ok (first kept)]
      change _ = (each rest run >>= pure).outcome
      rw [bind_pure]
      exact ih others

namespace Service

variable {service : Service} {kind : ScalarKind} {key value : Tag} {node : Option Node}
  {location : String} {v : Int}

theorem outcome_walk_scalar {given : Value} (leaf : (Tag.scalar kind).opens given = false) :
    (service.walk (.scalar kind) node location given).outcome =
      .ok (service.leaf? (.scalar kind) given) := by
  rw [walk_of_not_opens leaf, outcome_walkLeaf]

theorem leaf?_double (integer : kind.isInteger = true) {d : Binary64} :
    service.leaf? (.scalar kind) (.number (.double d)) = none := by
  refine Option.eq_none_iff_forall_ne_some.mpr fun literal found => ?_
  obtain ⟨n, same, -⟩ := (scalarLiteral?_number_eq_some_iff integer).mp found
  cases same

theorem leaf?_integer (integer : kind.isInteger = true) :
    service.leaf? (.scalar kind) (.number (.integer v)) = kind.literal? v := by
  refine Option.ext fun literal => (scalarLiteral?_number_eq_some_iff integer).trans ?_
  rw [ScalarKind.literal?_eq_some_iff]
  simp

theorem leaf?_toString (wide : kind.isWide = true) :
    service.leaf? (.scalar kind) (.string (toString v)) = kind.literal? v := by
  refine Option.ext fun literal =>
    (scalarLiteral?_string_eq_some_iff (isInteger_of_isWide wide)).trans ?_
  rw [ScalarKind.literal?_eq_some_iff, trim_of_padded_toString padded_self]
  constructor
  · rintro ⟨-, n, ⟨spelled, fits⟩, rfl⟩
    obtain rfl := spelled.unique (spells_toString_int64 v)
    exact ⟨fits, rfl⟩
  · rintro ⟨fits, rfl⟩
    exact ⟨wide, v, ⟨spells_toString (nonneg_of_holds fits), fits⟩, rfl⟩

theorem leaf?_mapKey_toString (integer : kind.isInteger = true) :
    service.leaf? (.scalar kind) (mapKey (.scalar kind) (toString v)) = kind.literal? v := by
  refine Option.ext fun literal => (leaf?_mapKey_eq_some_iff integer).trans ?_
  simp only [keySpells_toString_iff, ScalarKind.literal?_eq_some_iff, exists_eq_left']

theorem outcome_walk_map_without {name : String} {members : List (String × Value)}
    (absent : service.leaf? key (mapKey key name) = none) :
    (service.walk (.map key value) node location (.object members)).outcome =
      (service.walk (.map key value) node location
        (.object (members.filter fun member => member.1 ≠ name))).outcome := by
  rw [walk_map, walk_map, byName_filter fun other => other ≠ name]
  refine Report.outcome_bind_congr (Report.outcome_each_filter ?_).symm fun _ => rfl
  intro entry _ dropped
  obtain rfl : entry.1 = name := by simpa using dropped
  rw [walkEntry_of_none absent, Report.bind_of_ok outcome_walkLeaf]
  rfl

theorem mem_entries_iff {members : List (String × Value)} {entries : List (Literal × Literal)}
    {entry : Literal × Literal}
    (h : (service.walk (.map key value) node location (.object members)).outcome =
      .ok (some (.map key value entries))) :
    entry ∈ entries ↔ ∃ name given, (Dict.ofList members).get? name = some given ∧
      service.leaf? key (mapKey key name) = some entry.1 ∧
      (service.walk value none (location ++ "." ++ name) given).outcome = .ok (some entry.2) := by
  rw [walk_map] at h
  obtain ⟨-, walked⟩ := Report.return_each_of_succeeds _ ⟨_, h⟩
  rw [walked] at h
  obtain ⟨-, -, rfl⟩ := Literal.map.inj (Option.some.inj (Except.ok.inj h))
  have member (name : String) (given : Value) :
      (name, given) ∈ byName members ↔ (Dict.ofList members).get? name = some given := by
    change (name, given) ∈ (Dict.ofList members).entries ↔ _
    exact Dict.mem_entries_iff
  simp only [List.mem_filterMap, Prod.exists, member, found_walkEntry, Option.bind_eq_some_iff,
    Option.map_eq_some_iff]
  constructor
  · rintro ⟨name, given, found, keyLiteral, isKey, literal, admitted, rfl⟩
    exact ⟨name, given, found, isKey, outcome_of_found admitted⟩
  · rintro ⟨name, given, found, isKey, admitted⟩
    exact ⟨name, given, found, _, isKey, _, Report.found_of_outcome admitted, rfl⟩

theorem mem_entries_toString_iff (integer : kind.isInteger = true)
    {members : List (String × Value)} {entries : List (Literal × Literal)} {given : Value}
    {literal : Literal}
    (h : (service.walk (.map (.scalar kind) value) node location (.object members)).outcome =
      .ok (some (.map (.scalar kind) value entries)))
    (found : (Dict.ofList members).get? (toString v) = some given)
    (admitted : (service.walk value none (location ++ "." ++ toString v) given).outcome =
      .ok (some literal)) :
    (.number (toString v), literal) ∈ entries ↔ kind.Spans v := by
  rw [mem_entries_iff h, ← ScalarKind.holds_iff]
  constructor
  · rintro ⟨name, -, -, isKey, -⟩
    obtain ⟨n, -, fits, same⟩ := (leaf?_mapKey_eq_some_iff integer).mp isKey
    obtain rfl := toString_inj.mp (Literal.number.inj same)
    exact fits
  · intro fits
    refine ⟨toString v, given, found, ?_, admitted⟩
    rw [leaf?_mapKey_toString integer, ScalarKind.literal?_eq_some_iff]
    exact ⟨fits, rfl⟩

theorem exists_number_toString (integer : kind.isInteger = true) (v : Int) :
    ∃ found : Option Number,
      (∀ steps rest, Json.Tree.EndsNumeral rest →
        Json.Tree.read? (steps + 1) ((toString v).toList ++ rest) =
          some (.number found, rest)) ∧
      (kind.Spans v → found.isSome = true) ∧
      ∀ x ∈ found, service.leaf? (.scalar kind) (.number x) = kind.literal? v := by
  obtain ⟨found, reads, whole, double⟩ := Json.exists_read?_toString v
  have range (spans : kind.Spans v) : InRange v := inRange_of_holds (ScalarKind.holds_iff.mpr spans)
  refine ⟨found, reads, fun spans => by rw [whole (range spans)]; rfl, fun x mem => ?_⟩
  by_cases out : InRange v
  · obtain rfl : .integer v = x := Option.some.inj ((whole out).symm.trans mem)
    exact leaf?_integer integer
  · obtain ⟨d, rfl⟩ := double out x mem
    rw [leaf?_double integer, ScalarKind.literal?_eq_none fun spans => out (range spans)]

/-- An integer in decimal form is admitted exactly where it is in the range of its kind, and then
without change: as a number of JSON, wherever one is read; as a key, and else the map is as if the
key were missing; and as a text, for the kinds that travel as strings. A number with a fraction or
an exponent is never admitted, not even as a key. -/
theorem integers_exact (integer : kind.isInteger = true) (v : Int) :
    (∃ found : Option Number,
      (∀ steps rest, Json.Tree.EndsNumeral rest →
        Json.Tree.read? (steps + 1) ((toString v).toList ++ rest) =
          some (.number found, rest)) ∧
      Value.parse? (toString v) = found.map .number ∧
      (kind.Spans v → found.isSome = true) ∧
      ∀ x ∈ found, ∀ node location,
        (service.walk (.scalar kind) node location (.number x)).outcome = .ok (kind.literal? v)) ∧
    (∀ value node location members entries,
      (service.walk (.map (.scalar kind) value) node location (.object members)).outcome =
        .ok (some (.map (.scalar kind) value entries)) →
      ∀ given literal, (Dict.ofList members).get? (toString v) = some given →
        (service.walk value none (location ++ "." ++ toString v) given).outcome =
          .ok (some literal) →
        ((.number (toString v), literal) ∈ entries ↔ kind.Spans v)) ∧
    (¬ kind.Spans v → ∀ value node location members,
      (service.walk (.map (.scalar kind) value) node location (.object members)).outcome =
        (service.walk (.map (.scalar kind) value) node location
          (.object (members.filter fun member => member.1 ≠ toString v))).outcome) ∧
    (kind.isWide = true → ∀ node location,
      (service.walk (.scalar kind) node location (.string (toString v))).outcome =
        .ok (kind.literal? v)) ∧
    (∀ steps text rest x, (∃ c ∈ text, Json.Tree.IsMark c) →
      Json.Tree.read? steps (text ++ rest) = some (.number (some x), rest) →
      ∀ node location,
        (service.walk (.scalar kind) node location (.number x)).outcome = .ok none) ∧
    ∀ s x, (∃ c ∈ s.toList, Json.Tree.IsMark c) → Value.parse? s = some (.number x) →
      ∀ value node location members,
        (service.walk (.map (.scalar kind) value) node location (.object members)).outcome =
          (service.walk (.map (.scalar kind) value) node location
            (.object (members.filter fun member => member.1 ≠ s))).outcome := by
  refine ⟨?number, ?key, ?outside, ?text, ?marked, ?markedKey⟩
  case number =>
    obtain ⟨found, reads, some, admits⟩ := exists_number_toString integer v
    have parses : Value.parse? (toString v) = found.map .number := by
      refine Json.parse?_of_read? fun steps => ?_
      simpa using reads steps [] nofun
    refine ⟨found, reads, parses, some, fun x mem node location => ?_⟩
    rw [outcome_walk_scalar rfl, admits x mem]
  case key =>
    intro value node location members entries h given literal found admitted
    exact mem_entries_toString_iff integer h found admitted
  case outside =>
    intro out value node location members
    refine outcome_walk_map_without ?_
    rw [leaf?_mapKey_toString integer, ScalarKind.literal?_eq_none out]
  case text =>
    intro wide node location
    rw [outcome_walk_scalar rfl, leaf?_toString wide]
  case marked =>
    intro steps text rest x mark read node location
    obtain ⟨d, rfl⟩ := Json.double_of_read?_mark mark read
    rw [outcome_walk_scalar rfl, leaf?_double integer]
  case markedKey =>
    intro s x mark read value node location members
    obtain ⟨d, rfl⟩ := Json.double_of_parse?_mark mark read
    refine outcome_walk_map_without ?_
    rw [mapKey_of_number integer read, leaf?_double integer]

theorem notes_uint32_keys :
    ScalarKind.uint32.isInteger = true ∧
      (notes.walk (.map (.scalar .uint32) (.scalar .bool)) none "ratings"
        (.object [("7", .bool true), ("-1", .bool false)])).outcome =
          .ok (some (.map (.scalar .uint32) (.scalar .bool) [(.number "7", .bool true)])) ∧
      ((Literal.number (toString (7 : Int)), Literal.bool true) ∈
        [(Literal.number "7", Literal.bool true)] ↔ ScalarKind.uint32.Spans 7) ∧
      ∀ members,
        (notes.walk (.map (.scalar .uint32) (.scalar .bool)) none "ratings"
          (.object members)).outcome =
          (notes.walk (.map (.scalar .uint32) (.scalar .bool)) none "ratings"
            (.object (members.filter fun member => member.1 ≠ toString (-1 : Int)))).outcome := by
  have walked : (notes.walk (.map (.scalar .uint32) (.scalar .bool)) none "ratings"
      (.object [("7", .bool true), ("-1", .bool false)])).outcome =
        .ok (some (.map (.scalar .uint32) (.scalar .bool) [(.number "7", .bool true)])) :=
    rfl
  obtain ⟨-, seven, -⟩ := @integers_exact notes .uint32 rfl 7
  obtain ⟨-, -, outside, -⟩ := @integers_exact notes .uint32 rfl (-1)
  exact ⟨rfl, walked, seven _ _ _ _ _ walked (.bool true) _ rfl rfl, outside (by decide) _ _ _⟩

end Service

end Typesmith
