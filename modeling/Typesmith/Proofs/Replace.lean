import Mathlib.Data.List.Infix
import Typesmith.Text.Replace

/-! # Occurrences of a text

A text is cut where a pattern occurs in it, and stays in one piece where none occurs. A pattern that
does not overlap with itself is cut off the end of a text without a change to what comes before. What
is put in the place of a pattern can be told from the result.
-/

namespace Typesmith.Text

variable {pattern xs : List Char} {skip : Nat} {c : Char}

theorem splitAtText_ne_nil : splitAtText pattern skip xs ≠ [] := by
  fun_induction splitAtText pattern skip xs with
  | case1 => simp
  | case2 _ _ _ ih => exact ih
  | case3 => simp
  | case4 => simp
  | case5 => simp

theorem splitAtText_of_length_le (h : xs.length ≤ skip) : splitAtText pattern skip xs = [[]] := by
  induction xs generalizing skip with
  | nil => rfl
  | cons c rest ih =>
    cases skip with
    | zero => simp at h
    | succ skip => exact ih (by simpa using h)

theorem splitAtText_of_not_start (h : ¬ pattern <+: c :: xs) :
    splitAtText pattern 0 (c :: xs) = (splitAtText pattern 0 xs).modifyHead (c :: ·) := by
  have nowhere : pattern.isPrefixOf (c :: xs) = false := by
    rwa [Bool.eq_false_iff, ne_eq, List.isPrefixOf_iff_prefix]
  simp only [splitAtText, nowhere, Bool.and_false, Bool.false_eq_true, if_false]
  cases pieces : splitAtText pattern 0 xs with
  | nil => exact absurd pieces splitAtText_ne_nil
  | cons piece others => rfl

theorem splitAtText_of_not_infix (h : ¬ pattern <:+: xs) : splitAtText pattern 0 xs = [xs] := by
  induction xs with
  | nil => rfl
  | cons c rest ih =>
    rw [List.infix_cons_iff, not_or] at h
    rw [splitAtText_of_not_start h.1, ih h.2]
    rfl

theorem length_flatten_modifyHead {pieces : List (List Char)} (h : pieces ≠ []) :
    (pieces.modifyHead (c :: ·)).flatten.length = pieces.flatten.length + 1 := by
  cases pieces with
  | nil => exact absurd rfl h
  | cons piece others => simp

section

variable (nonempty : pattern ≠ [])
include nonempty

theorem splitAtText_of_start (h : pattern <+: c :: xs) :
    splitAtText pattern 0 (c :: xs) = [] :: splitAtText pattern (pattern.length - 1) xs := by
  simp [splitAtText, h, nonempty]

theorem length_flatten_splitAtText_le :
    (splitAtText pattern skip xs).flatten.length ≤ xs.length := by
  induction xs generalizing skip with
  | nil => simp [splitAtText]
  | cons c rest ih =>
    cases skip with
    | succ skip => exact Nat.le_succ_of_le ih
    | zero =>
      by_cases here : pattern <+: c :: rest
      · rw [splitAtText_of_start nonempty here]
        exact Nat.le_succ_of_le ih
      · rw [splitAtText_of_not_start here, length_flatten_modifyHead splitAtText_ne_nil]
        exact Nat.succ_le_succ ih

theorem length_flatten_splitAtText_lt (h : pattern <:+: xs) :
    (splitAtText pattern 0 xs).flatten.length < xs.length := by
  induction xs with
  | nil => exact absurd (List.eq_nil_of_infix_nil h) nonempty
  | cons c rest ih =>
    by_cases here : pattern <+: c :: rest
    · rw [splitAtText_of_start nonempty here]
      exact Nat.lt_succ_of_le (length_flatten_splitAtText_le nonempty)
    · have further : pattern <:+: rest := (List.infix_cons_iff.mp h).resolve_left here
      rw [splitAtText_of_not_start here, length_flatten_modifyHead splitAtText_ne_nil]
      exact Nat.succ_lt_succ (ih further)

end

/-- No start of the pattern is an end of it, but for the whole. -/
def Unbordered (pattern : List Char) : Prop :=
  ∀ border ∈ pattern.tails, border <+: pattern → border = [] ∨ border = pattern

instance (pattern : List Char) : Decidable (Unbordered pattern) :=
  inferInstanceAs (Decidable (∀ _ ∈ _, _))

theorem Unbordered.prefix_of_append (unbordered : Unbordered pattern)
    (h : pattern <+: xs ++ pattern) (nonempty : xs ≠ []) : pattern <+: xs := by
  obtain ⟨rest, split⟩ := h
  rcases List.append_eq_append_iff.mp split with ⟨further, rfl, -⟩ | ⟨border, ending, start⟩
  · exact List.prefix_append pattern further
  · have is_end : border ∈ pattern.tails := (List.mem_tails _ _).mpr ⟨xs, ending.symm⟩
    rcases unbordered border is_end ⟨rest, start.symm⟩ with rfl | rfl
    · rw [ending, List.append_nil]
    · exact absurd (List.self_eq_append_left.mp ending) nonempty

theorem splitAtText_append_self (unbordered : Unbordered pattern) (nonempty : pattern ≠ [])
    (h : skip ≤ xs.length) :
    splitAtText pattern skip (xs ++ pattern) = splitAtText pattern skip xs ++ [[]] := by
  induction xs generalizing skip with
  | nil =>
    obtain rfl : skip = 0 := Nat.le_zero.mp h
    obtain ⟨first, others, rfl⟩ := List.exists_cons_of_ne_nil nonempty
    rw [List.nil_append, splitAtText_of_start nonempty List.prefix_rfl,
      splitAtText_of_length_le (by simp)]
    rfl
  | cons c rest ih =>
    cases skip with
    | succ skip => exact ih (Nat.le_of_succ_le_succ h)
    | zero =>
      by_cases here : pattern <+: c :: rest
      · have long : pattern.length - 1 ≤ rest.length := by
          have := here.length_le
          simp only [List.length_cons] at this
          omega
        have still : pattern <+: c :: (rest ++ pattern) :=
          here.trans (List.prefix_append (c :: rest) pattern)
        rw [splitAtText_of_start nonempty here, List.cons_append,
          splitAtText_of_start nonempty still, ih long, List.cons_append]
      · have still : ¬ pattern <+: c :: (rest ++ pattern) := fun there =>
          here (unbordered.prefix_of_append there (List.cons_ne_nil c rest))
        rw [splitAtText_of_not_start here, List.cons_append, splitAtText_of_not_start still,
          ih (Nat.zero_le _)]
        cases pieces : splitAtText pattern 0 rest with
        | nil => exact absurd pieces splitAtText_ne_nil
        | cons piece others => rfl

section

variable {filling other : List Char} {parts : List (List Char)}

theorem intercalate_modifyHead (h : parts ≠ []) :
    filling.intercalate (parts.modifyHead (c :: ·)) = c :: filling.intercalate parts := by
  cases parts with
  | nil => exact absurd rfl h
  | cons part rest => rw [List.modifyHead_cons, List.intercalate_cons_cons_left]

theorem intercalate_splitAtText (nonempty : pattern ≠ []) :
    pattern.intercalate (splitAtText pattern skip xs) = xs.drop skip := by
  induction xs generalizing skip with
  | nil => rw [splitAtText_of_length_le (Nat.zero_le _), List.intercalate_singleton, List.drop_nil]
  | cons c rest ih =>
    cases skip with
    | succ skip => exact ih
    | zero =>
      by_cases here : pattern <+: c :: rest
      · rw [splitAtText_of_start nonempty here, List.intercalate_cons_of_ne_nil splitAtText_ne_nil,
          ih, List.nil_append]
        obtain ⟨after, split⟩ := here
        obtain ⟨first, others, rfl⟩ := List.exists_cons_of_ne_nil nonempty
        obtain ⟨rfl, rfl⟩ := List.cons.inj split
        simp
      · rw [splitAtText_of_not_start here, intercalate_modifyHead splitAtText_ne_nil, ih]
        rfl

theorem length_intercalate (h : parts ≠ []) :
    (filling.intercalate parts).length =
      parts.flatten.length + (parts.length - 1) * filling.length := by
  induction parts with
  | nil => exact absurd rfl h
  | cons part rest ih =>
    cases rest with
    | nil => simp
    | cons next rest =>
      rw [List.intercalate_cons_cons, List.length_append, List.length_append, ih (by simp)]
      simp only [List.flatten_cons, List.length_append, List.length_cons, Nat.add_sub_cancel,
        Nat.succ_mul]
      omega

/-- What stands between parts can be told from the whole: it is as long as the length of the whole
says, and the first time it stands behind the first part. -/
theorem intercalate_inj (h : 1 < parts.length) :
    filling.intercalate parts = other.intercalate parts ↔ filling = other := by
  constructor
  · intro same
    have nonempty : parts ≠ [] := List.ne_nil_of_length_pos (by omega)
    have long : filling.length = other.length := by
      have total := congrArg List.length same
      rw [length_intercalate nonempty, length_intercalate nonempty, Nat.add_left_cancel_iff] at total
      exact Nat.eq_of_mul_eq_mul_left (by omega) total
    match parts, h with
    | first :: second :: rest, _ =>
      rw [List.intercalate_cons_cons, List.intercalate_cons_cons, List.append_assoc,
        List.append_assoc, List.append_right_inj] at same
      exact (List.append_inj same long).1
  · rintro rfl
    rfl

theorem head?_intercalate_eq_some_iff (nonempty : filling ≠ []) (h : filling.head? ≠ some c) :
    (filling.intercalate parts).head? = some c ↔ parts.head?.bind List.head? = some c := by
  match parts with
  | [] => simp
  | [part] => simp
  | [] :: next :: others =>
    rw [List.intercalate_cons_cons, List.nil_append, List.head?_append_of_ne_nil _ nonempty]
    simpa using h
  | (first :: rest) :: next :: others => simp

end

section

variable {part s : String}

theorem intercalate_nil (pieces : List (List Char)) : [].intercalate pieces = pieces.flatten := by
  induction pieces with
  | nil => rfl
  | cons piece others ih =>
    cases others with
    | nil => rw [List.intercalate_singleton, List.flatten_singleton]
    | cons second rest =>
      rw [List.intercalate_cons_cons, ih, List.append_nil, List.flatten_cons (l := piece)]

theorem toList_replaceAll_empty : (replaceAll part "" s).toList = (pieces part s).flatten := by
  simp [replaceAll, intercalate_nil]

/-- Only a text in which the part does not occur is kept as it is. -/
theorem replaceAll_empty_eq_self_iff (nonempty : part.toList ≠ []) :
    replaceAll part "" s = s ↔ ¬ part.toList <:+: s.toList := by
  rw [← String.toList_inj, toList_replaceAll_empty]
  constructor
  · intro same occurs
    have shorter := length_flatten_splitAtText_lt nonempty occurs
    exact absurd (congrArg List.length same) (Nat.ne_of_lt shorter)
  · intro absent
    rw [pieces, splitAtText_of_not_infix absent, List.flatten_singleton]

theorem replaceAll_append_self (unbordered : Unbordered part.toList)
    (nonempty : part.toList ≠ []) : replaceAll part "" (s ++ part) = replaceAll part "" s := by
  rw [← String.toList_inj, toList_replaceAll_empty, toList_replaceAll_empty, pieces, pieces,
    String.toList_append, splitAtText_append_self unbordered nonempty (Nat.zero_le _)]
  simp

theorem length_replaceAll_empty_lt (occurs : part.toList <:+: s.toList)
    (nonempty : part.toList ≠ []) : (replaceAll part "" s).length < s.length := by
  rw [← String.length_toList, ← String.length_toList, toList_replaceAll_empty]
  exact length_flatten_splitAtText_lt nonempty occurs

theorem intercalate_pieces (nonempty : part.toList ≠ []) :
    part.toList.intercalate (pieces part s) = s.toList :=
  intercalate_splitAtText nonempty

theorem replaceAll_inj {filling other : String} (occurs : occursIn part s = true) :
    replaceAll part filling s = replaceAll part other s ↔ filling = other := by
  rw [replaceAll, replaceAll, String.ofList_inj, intercalate_inj (of_decide_eq_true occurs),
    String.toList_inj]

theorem replaceAll_of_not_occursIn {filling : String} (nonempty : part.toList ≠ [])
    (absent : occursIn part s = false) : replaceAll part filling s = s := by
  have few : (pieces part s).length ≤ 1 := by simpa [occursIn] using absent
  have whole := intercalate_pieces (s := s) nonempty
  rw [replaceAll, ← String.toList_inj, String.toList_ofList, ← whole]
  match pieces part s, few with
  | [], _ => rfl
  | [piece], _ => rw [List.intercalate_singleton, List.intercalate_singleton]

theorem beforeSuffix?_eq_some_iff {front : String} :
    beforeSuffix? part s = some front ↔ s = front ++ part := by
  rw [beforeSuffix?, Option.map_eq_some_iff]
  simp only [List.isPrefixOf?_eq_some_iff_append_eq]
  constructor
  · rintro ⟨reversed, split, rfl⟩
    have := congrArg List.reverse split
    rw [List.reverse_append, List.reverse_reverse, List.reverse_reverse] at this
    rw [← String.toList_inj, ← this, String.toList_append, String.toList_ofList]
  · rintro rfl
    exact ⟨front.toList.reverse, by simp, by simp⟩

theorem afterPrefix?_eq_some_iff {rest : String} :
    afterPrefix? part s = some rest ↔ s = part ++ rest := by
  rw [afterPrefix?, Option.map_eq_some_iff]
  simp only [List.isPrefixOf?_eq_some_iff_append_eq]
  constructor
  · rintro ⟨after, split, rfl⟩
    rw [← String.toList_inj, ← split, String.toList_append, String.toList_ofList]
  · rintro rfl
    exact ⟨rest.toList, String.toList_append.symm, String.ofList_toList⟩

end

end Typesmith.Text
