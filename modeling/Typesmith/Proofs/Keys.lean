import Typesmith.Proofs.Composition
import Typesmith.Proofs.Numeral

/-! # Keys of maps

A key with an integer kind is read as a number of JSON where it is one, and else as a text. Both
readings agree with what the text is as a value, except for zero with a minus sign: to JSON that is
a double.
-/

namespace Typesmith

open Json (Value Padded InRange)
open OpenApi (Node)

variable {kind : ScalarKind} {cs core : List Char} {s : String} {m n : Int}

namespace Text

theorem isBlank_of_isSpace {c : Char} (space : Json.Tree.isSpace c = true) : isBlank c = true := by
  simp only [Json.Tree.isSpace, Bool.or_eq_true, decide_eq_true_eq] at space
  obtain ((rfl | rfl) | rfl) | rfl := space <;> decide

theorem dropWhile_append_of_solid {before rest : List Char} (blank : ∀ c ∈ before, isBlank c = true)
    (nonempty : core ≠ []) (solid : ∀ c ∈ core, isBlank c = false) :
    (before ++ (core ++ rest)).dropWhile isBlank = core ++ rest := by
  obtain ⟨c, others, rfl⟩ := List.exists_cons_of_ne_nil nonempty
  rw [List.dropWhile_append_of_pos blank, List.cons_append, List.dropWhile_cons_of_neg]
  simp [solid c List.mem_cons_self]

theorem trim_of_padded (padded : Padded core cs) (nonempty : core ≠ [])
    (solid : ∀ c ∈ core, isBlank c = false) : trim cs = core := by
  obtain ⟨before, after, rfl, spaces, spaces'⟩ := padded
  have start : trimStart (before ++ core ++ after) = core ++ after := by
    rw [trimStart, List.append_assoc]
    exact dropWhile_append_of_solid (fun c mem => isBlank_of_isSpace (spaces c mem)) nonempty solid
  have ending : (after.reverse ++ (core.reverse ++ [])).dropWhile isBlank = core.reverse ++ [] := by
    refine dropWhile_append_of_solid (fun c mem => ?_) (by simpa using nonempty)
      (by simpa using solid)
    exact isBlank_of_isSpace (spaces' c (List.mem_reverse.mp mem))
  rw [trim, start, trimEnd, List.reverse_append]
  simpa using congrArg List.reverse ending

theorem mem_dropWhile_of_not {p : Char → Bool} {c : Char} (mem : c ∈ cs) (stops : p c = false) :
    c ∈ cs.dropWhile p := by
  rw [← List.takeWhile_append_dropWhile (p := p) (l := cs), List.mem_append] at mem
  refine mem.resolve_left fun taken => ?_
  simp [List.mem_takeWhile_imp taken] at stops

theorem mem_trim_of_mem {c : Char} (mem : c ∈ cs) (solid : isBlank c = false) : c ∈ trim cs := by
  have start : c ∈ trimStart cs := mem_dropWhile_of_not mem solid
  exact List.mem_reverse.mpr (mem_dropWhile_of_not (List.mem_reverse.mpr start) solid)

end Text

theorem isDecimal_toDigits (n : Nat) : IsDecimal (Nat.toDigits 10 n) n :=
  ⟨Nat.toDigits_ne_nil, fun _ => Nat.isDigit_of_mem_toDigits (by decide) (by decide),
    Nat.ofDigitChars_toDigits (by decide) (by decide)⟩

theorem Spells.unique {other : ScalarKind} (h : Spells kind cs m) (h' : Spells other cs n) :
    m = n := by
  cases h with
  | plain decimal =>
    cases h' with
    | plain decimal' => rw [← decimal.2.2, ← decimal'.2.2]
    | plus | minus => exact absurd decimal (not_isDecimal_of_sign rfl)
  | plus decimal =>
    cases h' with
    | plain decimal' => exact absurd decimal' (not_isDecimal_of_sign rfl)
    | plus decimal' => rw [← decimal.2.2, ← decimal'.2.2]
  | minus _ decimal =>
    cases h' with
    | plain decimal' => exact absurd decimal' (not_isDecimal_of_sign rfl)
    | minus _ decimal' => rw [← decimal.2.2, ← decimal'.2.2]

theorem Spells.sign_or_digit (h : Spells kind cs n) :
    ∀ c ∈ cs, c = '+' ∨ c = '-' ∨ c.isDigit = true := by
  cases h with
  | plain decimal => exact fun c mem => .inr (.inr (decimal.2.1 c mem))
  | plus decimal =>
    exact List.forall_mem_cons.mpr ⟨.inl rfl, fun c mem => .inr (.inr (decimal.2.1 c mem))⟩
  | minus _ decimal =>
    exact List.forall_mem_cons.mpr ⟨.inr (.inl rfl), fun c mem => .inr (.inr (decimal.2.1 c mem))⟩

theorem spells_toString (sign : kind = .uint64 → 0 ≤ n) : Spells kind (toString n).toList n := by
  obtain ⟨negative, m, rfl, nonzero⟩ := Json.exists_signed n
  rw [← Json.signText_append_toDigits nonzero]
  cases negative with
  | false => exact .plain (isDecimal_toDigits m)
  | true =>
    refine .minus (fun unsigned => ?_) (isDecimal_toDigits m)
    have positive : (0 : Int) ≤ Json.signed true m := sign unsigned
    have := nonzero rfl
    simp only [Json.signed, if_true] at positive
    omega

theorem spells_toString_int64 (n : Int) : Spells .int64 (toString n).toList n :=
  spells_toString nofun

theorem spells_minus_zero : Spells .int64 ['-', '0'] 0 :=
  .minus (n := 0) nofun ⟨by simp, by simp, rfl⟩

theorem isBlank_of_sign_or_digit {c : Char} (h : c = '+' ∨ c = '-' ∨ c.isDigit = true) :
    Text.isBlank c = false := by
  obtain rfl | rfl | digit := h
  · decide
  · decide
  · have range : 48 ≤ c.toNat ∧ c.toNat ≤ 57 := Char.isDigit_iff_toNat.mp digit
    simp [Text.isBlank, Text.blankRanges]
    omega

theorem trim_of_padded_toString (padded : Padded (toString n).toList cs) :
    Text.trim cs = (toString n).toList := by
  have spelled := spells_toString_int64 n
  refine Text.trim_of_padded padded (fun empty => ?_) fun c mem =>
    isBlank_of_sign_or_digit (spelled.sign_or_digit c mem)
  rw [empty] at spelled
  cases spelled with
  | plain decimal => exact decimal.1 rfl

/-- The text of zero with a minus sign, white space around it. -/
def IsMinusZero (s : String) : Prop :=
  Padded ['-', '0'] s.toList

theorem trim_of_isMinusZero (h : IsMinusZero s) : Text.trim s.toList = ['-', '0'] :=
  Text.trim_of_padded h (by simp) fun c mem =>
    isBlank_of_sign_or_digit (spells_minus_zero.sign_or_digit c mem)

/-- The texts that are keys for an integer: its decimal form with white space around it, and for the
kinds that travel as strings what else spells it as a value, save one text. -/
inductive KeySpells (kind : ScalarKind) (s : String) (n : Int) : Prop
  | numeral : Padded (toString n).toList s.toList → KeySpells kind s n
  | text : kind.isWide = true → Spells kind (Text.trim s.toList) n → ¬ IsMinusZero s →
      KeySpells kind s n

theorem inRange_of_holds (fits : kind.holds n = true) : InRange n := by
  cases kind <;> simp [ScalarKind.holds, ScalarKind.range?, InRange] at fits ⊢ <;> omega

theorem nonneg_of_holds (fits : kind.holds n = true) (unsigned : kind = .uint64) : 0 ≤ n := by
  subst unsigned
  simp only [ScalarKind.holds, ScalarKind.range?, Bool.and_eq_true, decide_eq_true_eq] at fits
  exact fits.1

theorem parse?_of_keySpells_numeral (padded : Padded (toString n).toList s.toList)
    (fits : kind.holds n = true) : Value.parse? s = some (.number (.integer n)) :=
  Json.parse?_eq_integer_iff.mpr ⟨padded, inRange_of_holds fits⟩

theorem mapKey_of_isInteger (integer : kind.isInteger = true) : mapKey (.scalar kind) s =
    ((Value.parse? s).filter Value.isNumber).getD (.string s) := by
  cases kind <;> simp [ScalarKind.isInteger] at integer <;> rfl

theorem mapKey_of_number {x : Json.Number} (integer : kind.isInteger = true)
    (h : Value.parse? s = some (.number x)) : mapKey (.scalar kind) s = .number x := by
  rw [mapKey_of_isInteger integer, h]
  rfl

theorem mapKey_of_no_number (integer : kind.isInteger = true)
    (h : ∀ x, Value.parse? s ≠ some (.number x)) : mapKey (.scalar kind) s = .string s := by
  rw [mapKey_of_isInteger integer]
  cases parsed : Value.parse? s with
  | none => rfl
  | some value =>
    cases value with
    | number x => exact absurd parsed (h x)
    | _ => rfl

/-- A text that is a double to JSON spells no integer that fits, save zero with a minus sign. -/
theorem isMinusZero_of_double {x : Binary64} (h : Value.parse? s = some (.number (.double x)))
    (spelled : Spells kind (Text.trim s.toList) n) (fits : kind.holds n = true) :
    IsMinusZero s := by
  obtain ⟨text, padded, ⟨c, mem, mark⟩ | ⟨v, rfl, out⟩ | rfl⟩ := Json.padded_of_parse?_double h
  -- a trim keeps the mark, which no spelling has
  · have inside : c ∈ s.toList := by
      obtain ⟨before, after, same, -⟩ := padded
      rw [same]
      exact List.mem_append_left _ (List.mem_append_right _ mem)
    have solid : Text.isBlank c = false ∧ ¬ (c = '+' ∨ c = '-' ∨ c.isDigit = true) := by
      obtain rfl | rfl | rfl := mark <;> decide
    exact absurd (spelled.sign_or_digit c (Text.mem_trim_of_mem inside solid.1)) solid.2
  · rw [trim_of_padded_toString padded] at spelled
    obtain rfl : n = v := spelled.unique (spells_toString_int64 _)
    exact absurd (inRange_of_holds fits) out
  · exact padded

theorem eq_integer_of_keySpells {x : Json.Number} (spelled : KeySpells kind s n)
    (fits : kind.holds n = true) (h : Value.parse? s = some (.number x)) : x = .integer n := by
  cases spelled with
  | numeral padded =>
    have integer := parse?_of_keySpells_numeral padded fits
    rw [h] at integer
    cases integer
    rfl
  | text _ spelled unsigned =>
    cases x with
    | integer v =>
      rw [trim_of_padded_toString (Json.parse?_eq_integer_iff.mp h).1] at spelled
      rw [spelled.unique (spells_toString_int64 _)]
    | double x => exact absurd (isMinusZero_of_double h spelled fits) unsigned

variable {service : Service} {literal : Literal}

theorem scalarLiteral?_number_eq_some_iff (integer : kind.isInteger = true) {x : Json.Number} :
    scalarLiteral? kind (.number x) = some literal ↔
      ∃ n, x = .integer n ∧ kind.holds n = true ∧ .number (toString n) = literal := by
  simp only [scalarLiteral?, numberLiteral?, integer, if_true, ← integerLiteral_eq]
  cases x with
  | integer n => simp
  | double x => simp

theorem scalarLiteral?_string_eq_some_iff (integer : kind.isInteger = true) :
    scalarLiteral? kind (.string s) = some literal ↔ kind.isWide = true ∧ ∃ n,
      (Spells kind (Text.trim s.toList) n ∧ kind.holds n = true) ∧
        .number (toString n) = literal := by
  simp only [← integerOf?_eq_some_iff, ← integerLiteral_eq, ← Option.map_eq_some_iff]
  cases kind <;> simp [ScalarKind.isInteger] at integer <;> simp [scalarLiteral?, ScalarKind.isWide]

theorem leaf?_mapKey_eq_some_iff (integer : kind.isInteger = true) :
    service.leaf? (.scalar kind) (mapKey (.scalar kind) s) = some literal ↔
      ∃ n, KeySpells kind s n ∧ kind.holds n = true ∧ .number (toString n) = literal := by
  have read : service.leaf? (.scalar kind) (mapKey (.scalar kind) s) =
      scalarLiteral? kind (mapKey (.scalar kind) s) := by
    rcases mapKey_cases (.scalar kind) s with ⟨b, eq⟩ | ⟨x, eq⟩ | eq <;> rw [eq] <;> rfl
  rw [read]
  -- what is a number to JSON is never read as a text, even where it is no integer
  by_cases number : ∃ x, Value.parse? s = some (.number x)
  · obtain ⟨x, parsed⟩ := number
    rw [mapKey_of_number integer parsed, scalarLiteral?_number_eq_some_iff integer]
    constructor
    · rintro ⟨n, rfl, fits, rfl⟩
      exact ⟨n, .numeral (Json.parse?_eq_integer_iff.mp parsed).1, fits, rfl⟩
    · rintro ⟨n, spelled, fits, rfl⟩
      exact ⟨n, eq_integer_of_keySpells spelled fits parsed, fits, rfl⟩
  · simp only [not_exists] at number
    rw [mapKey_of_no_number integer number, scalarLiteral?_string_eq_some_iff integer]
    constructor
    · rintro ⟨wide, n, ⟨spelled, fits⟩, rfl⟩
      refine ⟨n, .text wide spelled fun minus => ?_, fits, rfl⟩
      obtain ⟨x, parsed⟩ := Json.parse?_minus_zero minus
      exact number _ parsed
    · rintro ⟨n, padded | ⟨wide, spelled, -⟩, fits, rfl⟩
      · exact absurd (parse?_of_keySpells_numeral padded fits) (number _)
      · exact ⟨wide, n, ⟨spelled, fits⟩, rfl⟩

theorem not_spells_minus_zero : ¬ Spells .uint64 ['-', '0'] n := by
  intro spelled
  cases spelled with
  | plain decimal => exact not_isDecimal_of_sign rfl decimal
  | minus signed => exact signed rfl

theorem not_keySpells_of_isMinusZero (h : IsMinusZero s) : ¬ KeySpells kind s n := by
  rintro (padded | ⟨-, -, unsigned⟩)
  · have same : (toString n).toList = ['-', '0'] :=
      (trim_of_padded_toString padded).symm.trans (trim_of_isMinusZero h)
    obtain rfl : n = 0 := (same ▸ spells_toString_int64 n).unique spells_minus_zero
    exact absurd same (by decide)
  · exact unsigned h

/-- What spells an integer as a value does so as a key, with one exception. -/
theorem keySpells_iff (wide : kind.isWide = true) (fits : kind.holds n = true)
    (regular : ¬ (kind = .int64 ∧ IsMinusZero s)) :
    KeySpells kind s n ↔ Spells kind (Text.trim s.toList) n := by
  constructor
  · rintro (padded | ⟨-, spelled, -⟩)
    · rw [trim_of_padded_toString padded]
      exact spells_toString (nonneg_of_holds fits)
    · exact spelled
  · intro spelled
    refine .text wide spelled fun minus => ?_
    rw [trim_of_isMinusZero minus] at spelled
    cases kind <;> simp [ScalarKind.isWide] at wide
    · exact regular ⟨rfl, minus⟩
    · exact not_spells_minus_zero spelled

theorem isInteger_of_isWide (wide : kind.isWide = true) : kind.isInteger = true := by
  cases kind <;> simp_all [ScalarKind.isWide, ScalarKind.isInteger]

namespace Service

variable {key value : Tag} {node : Option Node} {location : String} {entry : Value}

theorem outcome_walkEntry
    (admitted : (service.walk value none (location ++ "." ++ s) entry).outcome =
      .ok (some literal)) :
    (service.walkEntry key value location (s, entry)).outcome =
      .ok ((service.leaf? key (mapKey key s)).map (·, literal)) := by
  cases found : service.leaf? key (mapKey key s) with
  | none => rw [walkEntry_of_none found, Report.bind_of_ok outcome_walkLeaf]; rfl
  | some keyLiteral => rw [walkEntry_of_some found, Report.bind_of_ok admitted]; rfl

theorem outcome_walk_map_singleton
    (admitted : (service.walk value none (location ++ "." ++ s) entry).outcome =
      .ok (some literal)) :
    (service.walk (.map key value) node location (.object [(s, entry)])).outcome =
      .ok (some (.map key value
        ((service.leaf? key (mapKey key s)).toList.map (·, literal)))) := by
  rw [walk_map, byName_singleton, Report.return_each_singleton, outcome_walkEntry admitted]
  cases service.leaf? key (mapKey key s) <;> rfl

theorem leaf?_string_of_isWide (wide : kind.isWide = true) :
    service.leaf? (.scalar kind) (.string s) =
      (kind.integerOf? s).map fun n => .number (toString n) := by
  rw [← funext integerLiteral_eq]
  cases kind <;> simp [ScalarKind.isWide] at wide <;> rfl

theorem leaf?_mapKey_of_isWide (wide : kind.isWide = true)
    (regular : ¬ (kind = .int64 ∧ IsMinusZero s)) :
    service.leaf? (.scalar kind) (mapKey (.scalar kind) s) =
      (kind.integerOf? s).map fun n => .number (toString n) := by
  refine Option.ext fun literal => ?_
  simp only [leaf?_mapKey_eq_some_iff (isInteger_of_isWide wide), Option.map_eq_some_iff,
    integerOf?_eq_some_iff, and_assoc]
  exact exists_congr fun n => and_congr_left fun ⟨fits, _⟩ => keySpells_iff wide fits regular

theorem leaf?_mapKey_of_isMinusZero (integer : kind.isInteger = true) (minus : IsMinusZero s) :
    service.leaf? (.scalar kind) (mapKey (.scalar kind) s) = none := by
  refine Option.eq_none_iff_forall_ne_some.mpr fun literal found => ?_
  obtain ⟨n, spelled, -⟩ := (leaf?_mapKey_eq_some_iff integer).mp found
  exact not_keySpells_of_isMinusZero minus spelled

/-- As a key, a text stands for the integer that it stands for as a value, or for none as there: for
the one that it spells, if that fits. The one exception is zero with a minus sign: of kind `int64`,
it is a value and no key. -/
theorem walk_key_eq_value_iff (wide : kind.isWide = true) {mapNode : Option Node} {place : String}
    (admitted : (service.walk value none (location ++ "." ++ s) entry).outcome =
      .ok (some literal)) :
    ∃ asValue asKey : Option Int,
      (service.walk (.scalar kind) node place (.string s)).outcome =
          .ok (asValue.map fun n => .number (toString n)) ∧
        (service.walk (.map (.scalar kind) value) mapNode location
            (.object [(s, entry)])).outcome =
          .ok (some (.map (.scalar kind) value
            (asKey.toList.map fun n => (.number (toString n), literal)))) ∧
        (∀ n, asValue = some n ↔
          Spells kind (Text.trim s.toList) n ∧ kind.holds n = true) ∧
        (asKey = asValue ↔ ¬ (kind = .int64 ∧ IsMinusZero s)) ∧
        (kind = .int64 ∧ IsMinusZero s → asValue = some 0 ∧ asKey = none) := by
  have as_value : (service.walk (.scalar kind) node place (.string s)).outcome =
      .ok ((kind.integerOf? s).map fun n => .number (toString n)) := by
    rw [walk_of_not_opens rfl, outcome_walkLeaf, leaf?_string_of_isWide wide]
  rw [outcome_walk_map_singleton admitted]
  by_cases exception : kind = .int64 ∧ IsMinusZero s
  · obtain ⟨rfl, minus⟩ := exception
    have zero : ScalarKind.int64.integerOf? s = some 0 := by
      rw [integerOf?_eq_some_iff, trim_of_isMinusZero minus]
      exact ⟨spells_minus_zero, by decide⟩
    rw [leaf?_mapKey_of_isMinusZero rfl minus]
    refine ⟨_, none, as_value, rfl, fun n => integerOf?_eq_some_iff, ?_, fun _ => ⟨zero, rfl⟩⟩
    simp [zero, minus]
  · rw [leaf?_mapKey_of_isWide wide exception]
    refine ⟨_, kind.integerOf? s, as_value, ?_, fun n => integerOf?_eq_some_iff,
      ⟨fun _ => exception, fun _ => rfl⟩, fun h => absurd h exception⟩
    cases kind.integerOf? s <;> rfl

theorem notes_key_seven :
    ScalarKind.int64.isWide = true ∧
      (notes.walk (.scalar .bool) none "ratings. +7" (.bool true)).outcome =
        .ok (some (.bool true)) ∧
      ∃ asValue asKey : Option Int,
        (notes.walk (.scalar .int64) none "id" (.string " +7")).outcome =
            .ok (asValue.map fun n => .number (toString n)) ∧
          (notes.walk (.map (.scalar .int64) (.scalar .bool)) none "ratings"
              (.object [(" +7", .bool true)])).outcome =
            .ok (some (.map (.scalar .int64) (.scalar .bool)
              (asKey.toList.map fun n => (.number (toString n), .bool true)))) ∧
          (∀ n, asValue = some n ↔
            Spells .int64 (Text.trim " +7".toList) n ∧ ScalarKind.int64.holds n = true) ∧
          (asKey = asValue ↔ ¬ (ScalarKind.int64 = .int64 ∧ IsMinusZero " +7")) ∧
          (ScalarKind.int64 = .int64 ∧ IsMinusZero " +7" → asValue = some 0 ∧ asKey = none) :=
  ⟨rfl, rfl, walk_key_eq_value_iff rfl rfl⟩

theorem notes_key_minus_zero :
    (notes.walk (.scalar .int64) none "id" (.string "-0")).outcome = .ok (some (.number "0")) ∧
      (notes.walk (.map (.scalar .int64) (.scalar .bool)) none "ratings"
        (.object [("-0", .bool true)])).outcome =
          .ok (some (.map (.scalar .int64) (.scalar .bool) [])) :=
  ⟨rfl, rfl⟩

end Service

end Typesmith
