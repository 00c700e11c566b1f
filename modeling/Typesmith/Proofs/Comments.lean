import Mathlib.Data.List.TakeWhile
import Typesmith.Synthesis.Target

/-! # Comments

The languages differ in the characters that end a line, and a description is split at line feeds
alone. Its comment holds exactly where every further line that the language sees in it starts with
the marker by itself.
-/

namespace Typesmith

section Pieces

variable {α : Type} {p : α → Bool} {xs ys : List α}

theorem mem_modifyHead_iff {f : α → α} {x : α} :
    x ∈ xs.modifyHead f ↔ (∃ head, xs.head? = some head ∧ x = f head) ∨ x ∈ xs.tail := by
  cases xs <;> simp

theorem eq_false_of_any (h : xs.any p = false) : ∀ c ∈ xs, p c = false := by
  simpa using h

theorem splitOnP_append (p : α → Bool) (xs : List α) :
    ∃ front last, xs.splitOnP p = front ++ [last] ∧ ∀ ys : List α,
      (xs ++ ys).splitOnP p = front ++ (ys.splitOnP p).modifyHead (last ++ ·) := by
  induction xs with
  | nil =>
    refine ⟨[], [], rfl, fun ys => ?_⟩
    rw [List.nil_append, List.nil_append]
    cases ys.splitOnP p <;> rfl
  | cons c rest ih =>
    obtain ⟨front, last, split, append⟩ := ih
    simp only [List.cons_append, List.splitOnP_cons_eq_if_modifyHead, split, append]
    cases p c with
    | true => exact ⟨[] :: front, last, rfl, fun ys => rfl⟩
    | false =>
      cases front with
      | nil =>
        refine ⟨[], c :: last, rfl, fun ys => ?_⟩
        cases ys.splitOnP p <;> rfl
      | cons first front => exact ⟨(c :: first) :: front, last, rfl, fun ys => rfl⟩

theorem splitOnP_append_of_forall (h : ∀ c ∈ xs, p c = false) :
    (xs ++ ys).splitOnP p = (ys.splitOnP p).modifyHead (xs ++ ·) := by
  obtain ⟨front, last, split, append⟩ := splitOnP_append p xs
  rw [List.splitOnP_eq_singleton h, ← List.nil_append [xs]] at split
  obtain ⟨rfl, last_eq⟩ := List.append_inj' split rfl
  rw [append, ← List.singleton_inj.mp last_eq, List.nil_append]

theorem mem_of_mem_splitOnP {piece : List α} (h : piece ∈ xs.splitOnP p) {c : α}
    (mem : c ∈ piece) : c ∈ xs ∧ p c = false := by
  induction xs generalizing piece with
  | nil =>
    rw [List.splitOnP_nil, List.mem_singleton] at h
    simp [h] at mem
  | cons a rest ih =>
    have further {piece : List α} (h : piece ∈ rest.splitOnP p) (mem : c ∈ piece) :
        c ∈ a :: rest ∧ p c = false :=
      (ih h mem).imp_left (List.mem_cons_of_mem a)
    rw [List.splitOnP_cons_eq_if_modifyHead] at h
    -- A separator opens a new piece, and anything else belongs to the first piece of the rest.
    split at h
    · rcases List.mem_cons.mp h with rfl | h
      · simp at mem
      · exact further h mem
    · next clean =>
      rcases mem_modifyHead_iff.mp h with ⟨first, head, rfl⟩ | h
      · rcases List.mem_cons.mp mem with rfl | mem
        · exact ⟨List.mem_cons_self, by simpa using clean⟩
        · exact further (List.mem_of_head? head) mem
      · exact further (List.mem_of_mem_tail h) mem

end Pieces

namespace Text

variable {cs : List Char} {c : Char}

theorem mem_of_mem_trim (h : c ∈ trim cs) : c ∈ cs := by
  rw [trim, trimEnd, List.mem_reverse] at h
  exact (List.dropWhile_sublist _).mem (List.mem_reverse.mp ((List.dropWhile_sublist _).mem h))

theorem trim_eq_nil_iff : trim cs = [] ↔ ∀ c ∈ cs, isBlank c := by
  simp only [trim, trimEnd, trimStart, List.reverse_eq_nil_iff, List.dropWhile_eq_nil_iff,
    List.mem_reverse]
  constructor
  · intro h c mem
    rw [← List.takeWhile_append_dropWhile (p := isBlank) (l := cs), List.mem_append] at mem
    rcases mem with mem | mem
    · exact List.mem_takeWhile_imp mem
    · exact h c mem
  · exact fun h c mem => h c ((List.dropWhile_sublist _).mem mem)

end Text

namespace Language

def endsLine : Language → Char → Bool
  | go, c => c == '\n'
  | typescript, c => c == '\n' || c == '\r' || c == '\u2028' || c == '\u2029'
  | dart, c => c == '\n' || c == '\r'

def lines (language : Language) (cs : List Char) : List (List Char) :=
  cs.splitOnP language.endsLine

/-- Whether every line starts with the comment marker, but for an empty one at the end. -/
def IsComment (language : Language) (text : String) : Prop :=
  (language.lines text.toList).getLast? = some [] ∧
    ∀ line ∈ (language.lines text.toList).dropLast, language.commentMarker.toList <+: line

instance (language : Language) (text : String) : Decidable (language.IsComment text) :=
  inferInstanceAs (Decidable (_ ∧ _))

/-- What the language sees in each line of a description: one line, or several. -/
def rows (language : Language) (description : String) : List (List (List Char)) :=
  (description.toList.splitOn '\n').map fun line => language.lines (Text.trim line)

variable {language : Language} {description : String} {xs ys : List Char}

theorem lines_append_newline : language.lines (xs ++ '\n' :: ys) =
    language.lines xs ++ language.lines ys :=
  List.splitOnP_append_cons xs ys (by cases language <;> rfl)

theorem lines_marker_append : language.lines (language.commentMarker.toList ++ xs) =
    (language.lines xs).modifyHead (language.commentMarker.toList ++ ·) :=
  splitOnP_append_of_forall (eq_false_of_any (by cases language <;> decide))

theorem rows_of_blank (h : Text.trim description.toList = []) {row : List (List Char)}
    (mem : row ∈ language.rows description) : row = [[]] := by
  obtain ⟨line, written, rfl⟩ := List.mem_map.mp mem
  have blank : Text.trim line = [] := Text.trim_eq_nil_iff.mpr fun c mem_line =>
    Text.trim_eq_nil_iff.mp h c (mem_of_mem_splitOnP written mem_line).1
  rw [blank]
  rfl

theorem commentLines_of_blank {marker : String} (h : Text.trim description.toList = []) :
    Naming.commentLines marker description = "" := by
  simp [Naming.commentLines, h]

theorem lines_comment_append (h : Text.trim description.toList ≠ []) :
    language.lines ((Naming.commentLines language.commentMarker description).toList ++ ys) =
      (language.rows description).flatMap (·.modifyHead (language.commentMarker.toList ++ ·)) ++
        language.lines ys := by
  rw [Naming.commentLines, if_neg (by simpa using h), rows]
  generalize description.toList.splitOn '\n' = written
  induction written with
  | nil => simp
  | cons line rest ih =>
    have newline : "\n".toList = ['\n'] := rfl
    simp only [List.map_cons, String.join_cons, String.toList_append, String.toList_ofList,
      List.append_assoc, List.flatMap_cons]
    rw [← ih, ← lines_marker_append, newline, List.singleton_append, ← List.append_assoc,
      lines_append_newline]

theorem mem_lines_comment_append {line : List Char} (h : line ≠ language.commentMarker.toList) :
    line ∈ language.lines
        ((Naming.commentLines language.commentMarker description).toList ++ ys) ↔
      (∃ row ∈ language.rows description,
        line ∈ row.modifyHead (language.commentMarker.toList ++ ·)) ∨ line ∈ language.lines ys := by
  by_cases blank : Text.trim description.toList = []
  · have unseen : ¬ ∃ row ∈ language.rows description,
        line ∈ row.modifyHead (language.commentMarker.toList ++ ·) := by
      rintro ⟨row, mem, line_mem⟩
      rw [rows_of_blank blank mem] at line_mem
      simp [h] at line_mem
    simp [commentLines_of_blank blank, unseen]
  · rw [lines_comment_append blank, List.mem_append, List.mem_flatMap]

theorem isComment_commentLines_iff :
    language.IsComment (Naming.commentLines language.commentMarker description) ↔
      ∀ row ∈ language.rows description, ∀ line ∈ row.tail,
        language.commentMarker.toList <+: line := by
  by_cases blank : Text.trim description.toList = []
  · have empty : language.IsComment "" := by cases language <;> decide
    rw [commentLines_of_blank blank]
    refine iff_of_true empty fun row mem line line_mem => ?_
    rw [rows_of_blank blank mem] at line_mem
    simp at line_mem
  · have lines_eq := @lines_comment_append language description [] blank
    have end_line : language.lines [] = [[]] := rfl
    rw [List.append_nil, end_line] at lines_eq
    rw [IsComment, lines_eq, List.getLast?_concat, List.dropLast_concat, and_iff_right rfl]
    constructor
    · intro h row mem line line_mem
      exact h line (List.mem_flatMap.mpr ⟨row, mem, mem_modifyHead_iff.mpr (.inr line_mem)⟩)
    · intro h line line_mem
      obtain ⟨row, mem, line_mem⟩ := List.mem_flatMap.mp line_mem
      rcases mem_modifyHead_iff.mp line_mem with ⟨first, -, rfl⟩ | line_mem
      · exact List.prefix_append _ first
      · exact h row mem line line_mem

theorem tail_of_mem_rows_go {row : List (List Char)} (mem : row ∈ Language.go.rows description) :
    row.tail = [] := by
  obtain ⟨line, written, rfl⟩ := List.mem_map.mp mem
  have clean : ∀ c ∈ Text.trim line, Language.go.endsLine c = false := fun c mem_line =>
    (mem_of_mem_splitOnP written (Text.mem_of_mem_trim mem_line)).2
  rw [lines, List.splitOnP_eq_singleton clean, List.tail_cons]

/-- A comment holds exactly where every further line of a row has a marker of its own. Go ends lines
as descriptions do, so nothing gets out of a comment there. -/
theorem isComment_comment (description : String) :
    (∀ target : Target, target.language.IsComment (target.comment description) ↔
      ∀ row ∈ target.language.rows description, ∀ line ∈ row.tail,
        target.language.commentMarker.toList <+: line) ∧
    ∀ package, Language.go.IsComment ((⟨.go, package⟩ : Target).comment description) := by
  refine ⟨fun target => isComment_commentLines_iff, fun package => ?_⟩
  refine isComment_commentLines_iff.mpr fun row mem line line_mem => ?_
  rw [tail_of_mem_rows_go mem] at line_mem
  simp at line_mem

/-- A carriage return gets out of a comment in TypeScript and Dart, as a line separator does in
TypeScript. -/
theorem not_isComment_comment :
    ¬ Language.typescript.IsComment ((⟨.typescript, ""⟩ : Target).comment "first\rsecond") ∧
    ¬ Language.dart.IsComment ((⟨.dart, ""⟩ : Target).comment "first\rsecond") ∧
    ¬ Language.typescript.IsComment ((⟨.typescript, ""⟩ : Target).comment "first\u2028second") := by
  decide +kernel

end Language

end Typesmith
