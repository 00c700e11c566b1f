import Mathlib.Data.List.Induction
import Mathlib.Data.List.TakeWhile
import Typesmith.Proofs.Integer

/-! # Numbers in texts

A text is a number without fraction and exponent exactly if it is the decimal form of an integer of
64 bits between white space. What else is a number has a mark for its fraction or exponent, or is an
integer out of range, or zero with a minus sign.
-/

namespace Typesmith.Json

variable {cs rest : List Char} {n : Nat}

theorem digitChar_of_isDigit {c : Char} (h : c.isDigit = true) :
    c.toNat - 48 < 10 ∧ (c.toNat - 48).digitChar = c := by
  have range : 48 ≤ c.toNat ∧ c.toNat ≤ 57 := Char.isDigit_iff_toNat.mp h
  have small : c.toNat - 48 < 10 := by omega
  refine ⟨small, Char.toNat_inj.mp ?_⟩
  rw [Nat.toNat_digitChar_of_lt_ten small]
  omega

theorem eq_zero_of_head?_toDigits (h : (Nat.toDigits 10 n).head? = some '0') : n = 0 := by
  induction n using Nat.base_induction 10 (by decide) with
  | single m hm => simpa [Nat.toDigits_of_lt_base hm] using h
  | digit m k hk hm ih =>
    have leading : (Nat.toDigits 10 m).head? = some '0' := by
      rw [← Nat.toDigits_append_toDigits (by decide) hm hk, List.head?_append] at h
      cases front : Nat.toDigits 10 m with
      | nil => exact absurd front Nat.toDigits_ne_nil
      | cons c rest => simpa [front] using h
    exact absurd (ih leading) (Nat.ne_of_gt hm)

theorem exists_head_toDigits (n : Nat) :
    ∃ c ds, Nat.toDigits 10 n = c :: ds ∧ c.isDigit = true := by
  cases digits : Nat.toDigits 10 n with
  | nil => exact absurd digits Nat.toDigits_ne_nil
  | cons c ds =>
    exact ⟨c, ds, rfl,
      Nat.isDigit_of_mem_toDigits (by decide) (by decide) (digits ▸ List.mem_cons_self)⟩

theorem toDigits_ofDigitChars (digits : ∀ c ∈ cs, c.isDigit = true) (nonempty : cs ≠ [])
    (canonical : cs.head? = some '0' → cs = ['0']) :
    Nat.toDigits 10 (Nat.ofDigitChars 10 cs 0) = cs := by
  induction cs using List.reverseRecOn with
  | nil => exact absurd rfl nonempty
  | append_singleton front c ih =>
    obtain ⟨small, same⟩ := digitChar_of_isDigit (digits c (by simp))
    rw [Nat.ofDigitChars_append, Nat.ofDigitChars_cons, Nat.ofDigitChars_nil]
    cases front with
    | nil => simpa [Nat.toDigits_of_lt_base small] using same
    | cons first front =>
      have leading : first ≠ '0' := by
        rintro rfl
        simpa using canonical rfl
      have earlier := ih (fun d mem => digits d (List.mem_append_left _ mem)) (by simp)
        fun leads => absurd (by simpa using leads) leading
      have positive : 0 < Nat.ofDigitChars 10 (first :: front) 0 := by
        rw [Nat.pos_iff_ne_zero]
        intro zero
        rw [zero] at earlier
        exact leading (by simpa using (congrArg List.head? earlier).symm)
      have last : c.toNat - '0'.toNat = c.toNat - 48 := rfl
      rw [last, ← Nat.toDigits_append_toDigits (by decide) positive small, earlier,
        Nat.toDigits_of_lt_base small, same]

namespace Tree

def EndsDigits (rest : List Char) : Prop :=
  ∀ c ∈ rest.head?, c.isDigit = false

theorem digits_append (ds : List Char) (all : ∀ c ∈ ds, c.isDigit = true) (ends : EndsDigits rest) :
    digits (ds ++ rest) = (ds.map digitValue, rest) := by
  rw [digits, isDigit_eq, List.takeWhile_append_of_pos all, List.dropWhile_append_of_pos all]
  cases rest with
  | nil => simp
  | cons c rest =>
    have stops : c.isDigit = false := ends c rfl
    simp [stops]

theorem digits_split (cs : List Char) : ∃ ds rest, cs = ds ++ rest ∧ (∀ c ∈ ds, c.isDigit = true) ∧
    EndsDigits rest := by
  refine ⟨cs.takeWhile Char.isDigit, cs.dropWhile Char.isDigit,
    List.takeWhile_append_dropWhile.symm, fun c mem => List.mem_takeWhile_imp mem, fun c mem => ?_⟩
  have := List.head?_dropWhile_not Char.isDigit cs
  simpa [Option.mem_def.mp mem] using this

theorem someDigits?_eq_some {found : List Nat} (h : someDigits? cs = some (found, rest)) :
    ∃ ds, cs = ds ++ rest ∧ ds ≠ [] ∧ (∀ c ∈ ds, c.isDigit = true) ∧ EndsDigits rest ∧
      found = ds.map digitValue := by
  obtain ⟨ds, rest', rfl, all, ends⟩ := digits_split cs
  rw [someDigits?, digits_append ds all ends] at h
  cases ds with
  | nil => simp at h
  | cons c ds =>
    simp only [List.map_cons, Option.some.injEq, Prod.mk.injEq] at h
    obtain ⟨rfl, rfl⟩ := h
    exact ⟨c :: ds, rfl, by simp, all, ends, rfl⟩

def digitValues (n : Nat) : List Nat :=
  (Nat.toDigits 10 n).map digitValue

theorem whole?_eq_some {found : List Nat} (h : whole? cs = some (found, rest)) :
    ∃ n, cs = Nat.toDigits 10 n ++ rest ∧ found = digitValues n := by
  unfold whole? at h
  split at h
  · simp at h
  · next canonical =>
    obtain ⟨ds, rfl, nonempty, all, -, rfl⟩ := someDigits?_eq_some h
    have same : Nat.toDigits 10 (Nat.ofDigitChars 10 ds 0) = ds := by
      refine toDigits_ofDigitChars all nonempty fun leading => ?_
      obtain ⟨others, rfl⟩ := List.head?_eq_some_iff.mp leading
      cases others with
      | nil => rfl
      | cons second others => exact absurd h (canonical _ _ _)
    exact ⟨_, by rw [same], by rw [digitValues, same]⟩

theorem digitValues_ne {second : Nat} {others : List Nat} :
    digitValues n ≠ 0 :: second :: others := by
  intro leading
  obtain ⟨c, ds, digits, zero, rest⟩ := List.map_eq_cons_iff.mp leading
  have digit : c.isDigit = true :=
    Nat.isDigit_of_mem_toDigits (by decide) (by decide) (digits ▸ List.mem_cons_self)
  have first : c = '0' := by
    rw [← (digitChar_of_isDigit digit).2, show c.toNat - 48 = 0 from zero]
    rfl
  obtain rfl : n = 0 := eq_zero_of_head?_toDigits (by rw [digits, first]; rfl)
  obtain ⟨-, rfl⟩ := List.cons.inj digits
  simp at rest

theorem whole?_toDigits (ends : EndsDigits rest) :
    whole? (Nat.toDigits 10 n ++ rest) = some (digitValues n, rest) := by
  have all : ∀ c ∈ Nat.toDigits 10 n, c.isDigit = true := fun c =>
    Nat.isDigit_of_mem_toDigits (by decide) (by decide)
  have some_digits : someDigits? (Nat.toDigits 10 n ++ rest) = some (digitValues n, rest) := by
    rw [someDigits?, digits_append _ all ends, digitValues]
    cases digits : Nat.toDigits 10 n with
    | nil => exact absurd digits Nat.toDigits_ne_nil
    | cons c ds => rfl
  unfold whole?
  rw [some_digits]
  split
  · next leading => exact absurd (congrArg Prod.fst (Option.some.inj leading)) digitValues_ne
  · rfl

theorem fraction?_eq_some {found : Option (List Nat)} (h : fraction? cs = some (found, rest)) :
    found = none ∧ rest = cs ∨
      found.isSome = true ∧ ∃ ds, cs = '.' :: ds ++ rest := by
  unfold fraction? at h
  split at h
  · next cs =>
    obtain ⟨⟨found, rest⟩, some_digits, same⟩ := Option.map_eq_some_iff.mp h
    cases same
    obtain ⟨ds, rfl, -⟩ := someDigits?_eq_some some_digits
    exact .inr ⟨rfl, ds, rfl⟩
  · cases h
    exact .inl ⟨rfl, rfl⟩

theorem exponent?_eq_some {found : Option Int} (h : exponent? cs = some (found, rest)) :
    found = none ∧ rest = cs ∨
      found.isSome = true ∧ ∃ c text, (c = 'e' ∨ c = 'E') ∧ cs = c :: text ++ rest := by
  unfold exponent? at h
  split at h
  · cases h
    exact .inl ⟨rfl, rfl⟩
  · next c cs =>
    split at h
    · next mark =>
      obtain ⟨⟨found, rest⟩, some_digits, same⟩ := Option.map_eq_some_iff.mp h
      cases same
      obtain ⟨ds, split, -⟩ := someDigits?_eq_some some_digits
      refine .inr ⟨rfl, c, ?_⟩
      split at split
      · exact ⟨'+' :: ds, mark, by simpa using split⟩
      · exact ⟨'-' :: ds, mark, by simpa using split⟩
      · exact ⟨ds, mark, by simpa using split⟩
    · cases h
      exact .inl ⟨rfl, rfl⟩

/-- What sets a numeral apart from an integer: a point, or the letter before an exponent. -/
def IsMark (c : Char) : Prop :=
  c = '.' ∨ c = 'e' ∨ c = 'E'

def signText (negative : Bool) : List Char :=
  if negative then ['-'] else []

/-- A numeral is written as a sign, a whole part, and what gives its fraction and exponent. -/
structure Writes (numeral : Numeral) (text : List Char) (n : Nat) (tail : List Char) : Prop where
  text_eq : text = signText numeral.negative ++ Nat.toDigits 10 n ++ tail
  whole : numeral.whole = digitValues n
  plain_or_marked : (numeral.fraction.isSome || numeral.exponent.isSome) = false ∧ tail = [] ∨
    (numeral.fraction.isSome || numeral.exponent.isSome) = true ∧ ∃ c ∈ tail, IsMark c

theorem numeral?_eq_some {numeral : Numeral} (h : numeral? cs = some (numeral, rest)) :
    ∃ text n tail, cs = text ++ rest ∧ Writes numeral text n tail := by
  have parts : ∃ cs₁ cs₂ cs₃, cs = signText numeral.negative ++ cs₁ ∧
      whole? cs₁ = some (numeral.whole, cs₂) ∧ fraction? cs₂ = some (numeral.fraction, cs₃) ∧
      exponent? cs₃ = some (numeral.exponent, rest) := by
    simp only [numeral?, bind, Option.bind_eq_some_iff, Prod.exists, pure, Option.some.injEq,
      Prod.mk.injEq] at h
    obtain ⟨whole, cs₂, hwhole, fraction, cs₃, hfraction, exponent, cs₄, hexponent, rfl, rfl⟩ := h
    refine ⟨_, cs₂, cs₃, ?_, hwhole, hfraction, hexponent⟩
    split <;> rfl
  obtain ⟨cs₁, cs₂, cs₃, rfl, whole, fraction, exponent⟩ := parts
  obtain ⟨n, rfl, digits⟩ := whole?_eq_some whole
  obtain ⟨no_fraction, rfl⟩ | ⟨some_fraction, ds, rfl⟩ := fraction?_eq_some fraction
  · obtain ⟨no_exponent, rfl⟩ | ⟨some_exponent, c, text, mark, rfl⟩ := exponent?_eq_some exponent
    · exact ⟨_, n, [], by simp, rfl, digits, .inl ⟨by simp [no_fraction, no_exponent], rfl⟩⟩
    · exact ⟨_, n, c :: text, by simp, rfl, digits,
        .inr ⟨by simp [some_exponent], c, by simp, .inr mark⟩⟩
  · have point : IsMark '.' := .inl rfl
    obtain ⟨-, rfl⟩ | ⟨-, c, text, -, rfl⟩ := exponent?_eq_some exponent
    · exact ⟨_, n, '.' :: ds, by simp, rfl, digits,
        .inr ⟨by simp [some_fraction], '.', by simp, point⟩⟩
    · exact ⟨_, n, '.' :: ds ++ c :: text, by simp, rfl, digits,
        .inr ⟨by simp [some_fraction], '.', by simp, point⟩⟩

/-- Something does not go on with a digit or a mark. -/
def EndsNumeral (rest : List Char) : Prop :=
  ∀ c ∈ rest.head?, c.isDigit = false ∧ ¬ IsMark c

theorem numeral?_of_plain (negative : Bool) (n : Nat) (ends : EndsNumeral rest) :
    numeral? (signText negative ++ Nat.toDigits 10 n ++ rest) =
      some (⟨negative, digitValues n, none, none⟩, rest) := by
  have whole : whole? (Nat.toDigits 10 n ++ rest) = some (digitValues n, rest) :=
    whole?_toDigits fun c mem => (ends c mem).1
  have no_fraction : fraction? rest = some (none, rest) := by
    unfold fraction?
    split
    · exact absurd (.inl rfl) (ends '.' rfl).2
    · rfl
  have no_exponent : exponent? rest = some (none, rest) := by
    unfold exponent?
    split
    · rfl
    · next c cs =>
      rw [if_neg fun mark => (ends c rfl).2 (.inr mark)]
  cases negative with
  | true => simp [numeral?, signText, whole, no_fraction, no_exponent]
  | false =>
    -- the branch without a sign
    have unsigned : ∀ cs, Nat.toDigits 10 n ++ rest ≠ '-' :: cs := by
      intro cs same
      obtain ⟨c, ds, digits, digit⟩ := exists_head_toDigits n
      rw [digits] at same
      rw [(List.cons.inj same).1] at digit
      exact absurd digit (by decide)
    unfold numeral?
    simp [signText, whole, no_fraction, no_exponent]

theorem head_of_numeral? {numeral : Numeral} (h : numeral? cs = some (numeral, rest)) :
    ∃ c others, cs = c :: others ∧ (c = '-' ∨ c.isDigit = true) := by
  obtain ⟨text, n, tail, rfl, written⟩ := numeral?_eq_some h
  rw [written.text_eq]
  cases numeral.negative with
  | true => exact ⟨'-', _, rfl, .inl rfl⟩
  | false =>
    obtain ⟨c, ds, digits, digit⟩ := exists_head_toDigits n
    exact ⟨c, ds ++ tail ++ rest, by simp [signText, digits], .inr digit⟩

theorem numeral?_ne_some {c : Char} (sign : c ≠ '-') (digit : c.isDigit = false)
    {numeral : Numeral} : numeral? (c :: cs) ≠ some (numeral, rest) := by
  intro h
  obtain ⟨_, _, same, head⟩ := head_of_numeral? h
  obtain ⟨rfl, -⟩ := List.cons.inj same
  simp [sign, digit] at head

theorem read?_eq_number_iff {steps : Nat} {found : Option Number} :
    read? (steps + 1) cs = some (.number found, rest) ↔
      ∃ numeral, numeral? (skipSpace cs) = some (numeral, rest) ∧ numeral.number? = found := by
  unfold read?
  split
  · next empty =>
    rw [empty]
    exact ⟨nofun, fun ⟨_, h, _⟩ => nomatch head_of_numeral? h⟩
  -- no other tree starts as a numeral does
  · next text => simp [text, numeral?_ne_some]
  · next text =>
    rw [text]
    split <;> simp [numeral?_ne_some]
  · next text =>
    rw [text]
    split <;> simp [numeral?_ne_some]
  · next text => simp [text, literal?, numeral?_ne_some]
  · next text => simp [text, literal?, numeral?_ne_some]
  · next text => simp [text, literal?, numeral?_ne_some]
  · simp

end Tree

def continued (n : Nat) (digits : List Nat) : Nat :=
  digits.foldl (fun n digit => n * 10 + digit) n

theorem le_continued {digits : List Nat} : n ≤ continued n digits := by
  induction digits generalizing n with
  | nil => exact Nat.le_refl n
  | cons digit rest ih =>
    calc n ≤ n * 10 + digit := by omega
      _ ≤ continued (n * 10 + digit) rest := ih

theorem accumulate_of_lt {digits : List Nat} (small : continued n digits < Nat.pow 2 64) :
    accumulate n digits = (continued n digits, []) := by
  induction digits generalizing n with
  | nil => rfl
  | cons digit rest ih =>
    have next : n * 10 + digit < Nat.pow 2 64 := Nat.lt_of_le_of_lt le_continued small
    rw [accumulate, if_pos next, ih small]
    rfl

theorem accumulate_of_le {digits : List Nat} (within : n < Nat.pow 2 64)
    (large : Nat.pow 2 64 ≤ continued n digits) : (accumulate n digits).2 ≠ [] := by
  induction digits generalizing n with
  | nil => exact absurd within (Nat.not_lt.mpr large)
  | cons digit rest ih =>
    rw [accumulate]
    split
    · next next => exact ih next large
    · simp

theorem continued_digitValues : continued 0 (Tree.digitValues n) = n := by
  rw [Tree.digitValues]
  exact (natOfDigits_digitValue _).trans (Nat.ofDigitChars_toDigits (by decide) (by decide))

/-- The integers that a number without fraction and exponent may be. -/
def InRange (v : Int) : Prop :=
  -0x8000000000000000 ≤ v ∧ v ≤ 0xffffffffffffffff

def signed (negative : Bool) (n : Nat) : Int :=
  if negative then -n else n

theorem toList_toString (v : Int) : (toString v).toList = Number.integerText v := by
  rw [← text_integer, Number.text, String.toList_ofList]

theorem signText_append_toDigits {negative : Bool} (sign : negative = true → n ≠ 0) :
    Tree.signText negative ++ Nat.toDigits 10 n = (toString (signed negative n)).toList := by
  rw [toList_toString, Number.integerText, Number.digitsText]
  cases negative with
  | false => simp [Tree.signText, signed]
  | true =>
    have positive : 0 < n := Nat.pos_of_ne_zero (sign rfl)
    simp [Tree.signText, signed, positive]

theorem exists_signed (v : Int) :
    ∃ negative n, v = signed negative n ∧ (negative = true → n ≠ 0) := by
  refine ⟨decide (v < 0), v.natAbs, ?_, ?_⟩
  · simp only [signed, decide_eq_true_eq]
    split <;> omega
  · simp only [decide_eq_true_eq]
    omega

theorem integer?_eq_some_iff {numeral : Numeral} (whole : numeral.whole = Tree.digitValues n)
    {v : Int} : numeral.integer? = some v ↔
      (numeral.fraction.isSome || numeral.exponent.isSome) = false ∧
        v = signed numeral.negative n ∧ InRange v ∧ (numeral.negative = true → n ≠ 0) := by
  unfold Numeral.integer?
  rw [whole, InRange]
  split
  · next marked => simp [marked]
  · next plain =>
    rw [Bool.not_eq_true] at plain
    simp only [plain, true_and]
    have least : Nat.pow 2 63 = 0x8000000000000000 := rfl
    have limit : Nat.pow 2 64 = 0x10000000000000000 := rfl
    by_cases small : n < Nat.pow 2 64
    · have all : accumulate 0 (Tree.digitValues n) = (n, []) := by
        rw [accumulate_of_lt (by rwa [continued_digitValues]), continued_digitValues]
      simp only [all, List.isEmpty_nil, Bool.not_true, Bool.false_eq_true, if_false]
      cases numeral.negative with
      | false =>
        simp only [signed, Bool.not_false, if_true, Option.some.injEq, Bool.false_eq_true, if_false,
          false_implies, and_true]
        omega
      | true =>
        simp only [signed, Bool.not_true, Bool.false_eq_true, if_false, if_true, true_implies,
          Option.ite_none_left_eq_some, Option.some.injEq]
        omega
    · have left : (accumulate 0 (Tree.digitValues n)).2.isEmpty = false := by
        simpa using accumulate_of_le (by decide) (by rwa [continued_digitValues, ← Nat.not_lt])
      simp only [left, Bool.not_false, if_true, reduceCtorEq, false_iff]
      rintro ⟨rfl, range, -⟩
      -- more digits than an integer may have, whatever the sign
      rw [signed] at range
      split at range <;> omega

def Padded (core text : List Char) : Prop :=
  ∃ before after, text = before ++ core ++ after ∧ (∀ c ∈ before, Tree.isSpace c = true) ∧
    ∀ c ∈ after, Tree.isSpace c = true

namespace Tree

theorem skipSpace_eq_nil_iff : skipSpace cs = [] ↔ ∀ c ∈ cs, isSpace c = true := by
  simp [skipSpace]

theorem exists_padding (cs : List Char) :
    ∃ before, cs = before ++ skipSpace cs ∧ ∀ c ∈ before, isSpace c = true :=
  ⟨cs.takeWhile isSpace, List.takeWhile_append_dropWhile.symm, fun _ mem =>
    List.mem_takeWhile_imp mem⟩

theorem value?_eq_number_iff {depth : Nat} {tree : Tree} {x : Number} :
    tree.value? depth = some (.number x) ↔ tree = .number (some x) := by
  cases tree <;> cases depth <;> simp [value?]

theorem not_in_numeral_of_isSpace {c : Char} (space : isSpace c = true) :
    c ≠ '-' ∧ c.isDigit = false ∧ ¬ IsMark c := by
  simp only [isSpace, Bool.or_eq_true, decide_eq_true_eq] at space
  obtain ((rfl | rfl) | rfl) | rfl := space <;> simp [IsMark]

theorem skipSpace_of_numeral? {numeral : Numeral} (h : numeral? cs = some (numeral, rest)) :
    skipSpace cs = cs := by
  obtain ⟨c, others, rfl, start⟩ := head_of_numeral? h
  have solid : isSpace c = false := Bool.eq_false_iff.mpr fun space => by
    simp [not_in_numeral_of_isSpace space] at start
  rw [skipSpace, List.dropWhile_cons_of_neg (by simp [solid])]

theorem endsNumeral_of_spaces (spaces : ∀ c ∈ cs, isSpace c = true) : EndsNumeral cs :=
  fun c first => (not_in_numeral_of_isSpace (spaces c (List.mem_of_mem_head? first))).2

end Tree

theorem parse?_eq_number_iff {s : String} {x : Number} :
    Value.parse? s = some (.number x) ↔ ∃ numeral rest,
      Tree.numeral? (Tree.skipSpace s.toList) = some (numeral, rest) ∧
        Tree.skipSpace rest = [] ∧ numeral.number? = some x := by
  have reads : Tree.parse? s = some (.number (some x)) ↔ ∃ rest,
      Tree.read? (2 * s.length + 2) s.toList = some (.number (some x), rest) ∧
        Tree.skipSpace rest = [] := by
    unfold Tree.parse?
    split
    · next tree rest read => simp [read, and_comm]
    · next read => simp [read]
  simp only [Value.parse?, Option.bind_eq_some_iff, Tree.value?_eq_number_iff, exists_eq_right,
    reads, Tree.read?_eq_number_iff]
  constructor
  · rintro ⟨rest, ⟨numeral, read, number⟩, spaces⟩
    exact ⟨numeral, rest, read, spaces, number⟩
  · rintro ⟨numeral, rest, read, spaces, number⟩
    exact ⟨rest, ⟨numeral, read, number⟩, spaces⟩

theorem padded_of_parse? {s : String} {x : Number} (h : Value.parse? s = some (.number x)) :
    ∃ numeral text n tail, Padded text s.toList ∧ Tree.Writes numeral text n tail ∧
      numeral.number? = some x := by
  obtain ⟨numeral, rest, read, spaces, number⟩ := parse?_eq_number_iff.mp h
  obtain ⟨before, split, padding⟩ := Tree.exists_padding s.toList
  obtain ⟨text, n, tail, same, written⟩ := Tree.numeral?_eq_some read
  rw [same, ← List.append_assoc] at split
  have padded : Padded text s.toList :=
    ⟨before, rest, split, padding, Tree.skipSpace_eq_nil_iff.mp spaces⟩
  exact ⟨numeral, text, n, tail, padded, written, number⟩

theorem parse?_of_padded (negative : Bool) (n : Nat) {s : String} {x : Number}
    (padded : Padded (Tree.signText negative ++ Nat.toDigits 10 n) s.toList)
    (number : (Numeral.mk negative (Tree.digitValues n) none none).number? = some x) :
    Value.parse? s = some (.number x) := by
  obtain ⟨before, after, text, padding, spaces⟩ := padded
  refine parse?_eq_number_iff.mpr ⟨_, after, ?_, Tree.skipSpace_eq_nil_iff.mpr spaces, number⟩
  have read := Tree.numeral?_of_plain negative n (Tree.endsNumeral_of_spaces spaces)
  have solid := Tree.skipSpace_of_numeral? read
  rw [Tree.skipSpace] at solid
  rw [text, List.append_assoc, Tree.skipSpace, List.dropWhile_append_of_pos padding, solid, read]

/-- The texts of integers: decimal forms without leading zeros, with white space around them. -/
theorem parse?_eq_integer_iff {s : String} {v : Int} :
    Value.parse? s = some (.number (.integer v)) ↔
      Padded (toString v).toList s.toList ∧ InRange v := by
  constructor
  · intro h
    obtain ⟨numeral, text, n, tail, padded, written, number⟩ := padded_of_parse? h
    have integer : numeral.integer? = some v := by
      unfold Numeral.number? at number
      split at number
      · next integer =>
        cases number
        exact integer
      · simp at number
    obtain ⟨plain, rfl, range, sign⟩ := (integer?_eq_some_iff written.whole).mp integer
    obtain ⟨-, rfl⟩ | ⟨marked, -⟩ := written.plain_or_marked
    · rw [written.text_eq, List.append_nil, signText_append_toDigits sign] at padded
      exact ⟨padded, range⟩
    · simp [plain] at marked
  · rintro ⟨padded, range⟩
    obtain ⟨negative, n, rfl, sign⟩ := exists_signed v
    rw [← signText_append_toDigits sign] at padded
    refine parse?_of_padded negative n padded ?_
    have integer : (Numeral.mk negative (Tree.digitValues n) none none).integer? =
        some (signed negative n) := (integer?_eq_some_iff rfl).mpr ⟨rfl, rfl, range, sign⟩
    rw [Numeral.number?, integer]

/-- A number that is no integer has a mark, is out of range, or is zero with a minus sign. -/
theorem padded_of_parse?_double {s : String} {x : Binary64}
    (h : Value.parse? s = some (.number (.double x))) :
    ∃ text, Padded text s.toList ∧ ((∃ c ∈ text, Tree.IsMark c) ∨
      (∃ v : Int, text = (toString v).toList ∧ ¬ InRange v) ∨ text = ['-', '0']) := by
  obtain ⟨numeral, text, n, tail, padded, written, number⟩ := padded_of_parse? h
  refine ⟨text, padded, ?_⟩
  obtain ⟨plain, rfl⟩ | ⟨-, c, mem, mark⟩ := written.plain_or_marked
  · by_cases sign : numeral.negative = true → n ≠ 0
    · refine .inr (.inl ⟨signed numeral.negative n, ?_, fun range => ?_⟩)
      · rw [written.text_eq, List.append_nil, signText_append_toDigits sign]
      · have integer := (integer?_eq_some_iff written.whole).mpr ⟨plain, rfl, range, sign⟩
        simp [Numeral.number?, integer] at number
    · simp only [not_forall, not_not] at sign
      obtain ⟨negative, rfl⟩ := sign
      refine .inr (.inr ?_)
      rw [written.text_eq, negative]
      rfl
  · exact .inl ⟨c, by rw [written.text_eq]; exact List.mem_append_right _ mem, mark⟩

theorem parse?_minus_zero {s : String} (padded : Padded ['-', '0'] s.toList) :
    ∃ x, Value.parse? s = some (.number (.double x)) :=
  ⟨_, parse?_of_padded true 0 padded rfl⟩

end Typesmith.Json
