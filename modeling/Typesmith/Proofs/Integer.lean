import Typesmith.Walk

/-! # Integers in texts

The texts that stand for an integer of a kind, as a grammar, and the text that an integer has.
-/

namespace Typesmith

open Json (Value)

def IsDecimal (cs : List Char) (n : Nat) : Prop :=
  cs ≠ [] ∧ (∀ c ∈ cs, c.isDigit = true) ∧ Nat.ofDigitChars 10 cs 0 = n

/-- Digits after a sign; the unsigned kind knows no minus, not even before zero. -/
inductive Spells (kind : ScalarKind) : List Char → Int → Prop
  | plain {cs : List Char} {n : Nat} : IsDecimal cs n → Spells kind cs n
  | plus {cs : List Char} {n : Nat} : IsDecimal cs n → Spells kind ('+' :: cs) n
  | minus {cs : List Char} {n : Nat} : kind ≠ .uint64 → IsDecimal cs n →
      Spells kind ('-' :: cs) (-n)

/-- The integer that a value stands for: a number without fraction, or for the kinds that travel as
strings a text, white space around it of no account. -/
inductive Denotes (kind : ScalarKind) : Value → Int → Prop
  | number {n : Int} : Denotes kind (.number (.integer n)) n
  | text {s : String} {n : Int} : kind.isWide = true → Spells kind (Text.trim s.toList) n →
      Denotes kind (.string s) n

variable {kind : ScalarKind} {cs : List Char}

theorem isDigit_eq : Json.Tree.isDigit = Char.isDigit := rfl

theorem natOfDigits_digitValue (cs : List Char) :
    Json.Tree.natOfDigits (cs.map Json.Tree.digitValue) = Nat.ofDigitChars 10 cs 0 := by
  simp only [Json.Tree.natOfDigits, Nat.ofDigitChars, List.foldl_map, Json.Tree.digitValue,
    Nat.mul_comm]

theorem digits?_eq_some_iff {n : Nat} : digits? cs = some n ↔ IsDecimal cs n := by
  simp only [digits?, natOfDigits_digitValue, IsDecimal, isDigit_eq]
  cases cs <;> simp [and_assoc]

theorem not_isDecimal_of_sign {c : Char} {n : Nat} (h : c.isDigit = false) :
    ¬ IsDecimal (c :: cs) n := by
  rintro ⟨-, digits, -⟩
  simp [digits c List.mem_cons_self] at h

theorem integerOf?_eq_some_iff {s : String} {n : Int} :
    kind.integerOf? s = some n ↔ Spells kind (Text.trim s.toList) n ∧ kind.holds n = true := by
  simp only [ScalarKind.integerOf?, Option.filter_eq_some_iff, and_congr_left_iff]
  intro _
  constructor
  · generalize Text.trim s.toList = cs
    intro h
    split at h
    · split at h
      · simp at h
      · next signed =>
        obtain ⟨m, hm, rfl⟩ : ∃ m, digits? _ = some m ∧ -(m : Int) = n := by
          simpa [Option.bind_eq_some_iff] using h
        exact .minus signed (digits?_eq_some_iff.mp hm)
    · obtain ⟨m, hm, rfl⟩ := Option.map_eq_some_iff.mp h
      exact .plus (digits?_eq_some_iff.mp hm)
    · obtain ⟨m, hm, rfl⟩ := Option.map_eq_some_iff.mp h
      exact .plain (digits?_eq_some_iff.mp hm)
  · generalize Text.trim s.toList = cs
    intro h
    cases h with
    | plain h =>
      split
      · exact absurd h (not_isDecimal_of_sign rfl)
      · exact absurd h (not_isDecimal_of_sign rfl)
      · simp [digits?_eq_some_iff.mpr h]
    | plus h => simp [digits?_eq_some_iff.mpr h]
    | minus signed h => simp [signed, digits?_eq_some_iff.mpr h]

theorem text_integer (n : Int) : (Json.Number.integer n).text = toString n := by
  rw [Int.toString_eq_repr, Int.repr_eq_if]
  simp only [Json.Number.text, Json.Number.integerText, Json.Number.digitsText,
    Nat.repr_eq_ofList_toDigits]
  split
  · rw [if_neg (by omega), String.ofList_cons, show n.natAbs = (-n).toNat by omega]
    rfl
  · rw [if_pos (by omega), show n.natAbs = n.toNat by omega]

theorem integerLiteral_eq (n : Int) : integerLiteral n = .number (toString n) := by
  rw [integerLiteral, text_integer]

end Typesmith
