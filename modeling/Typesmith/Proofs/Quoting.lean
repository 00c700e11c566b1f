import Typesmith.Proofs.Annotations
import Typesmith.Proofs.RawJson

/-! # Quoted texts

Between its quotes, a text has a backslash before each character that could end the quotes or start
an interpolation, and none that escapes the closing quote. The text is read back by undoing its
escapes from left to right, between double quotes by the rules of JSON.
-/

namespace Typesmith

open Json (Value)

namespace Text

/-- Whether a text ends with a backslash that is not escaped itself, and so escapes what is next. -/
def escapesNext (cs : List Char) : Bool :=
  cs.foldl (fun escaping c => !escaping && c == '\\') false

/-- Every `c` in a text is escaped, and what comes after the text is not. -/
structure Guarded (c : Char) (cs : List Char) : Prop where
  escaped : ∀ before after, cs = before ++ c :: after → escapesNext before = true
  closed : escapesNext cs = false

def singleEscape? : Char → Option Char
  | 'n' => some '\n'
  | 'r' => some '\r'
  | 't' => some '\t'
  | '\\' => some '\\'
  | '\'' => some '\''
  | '$' => some '$'
  | _ => none

/-- Undoes the escapes of a text between single quotes, from left to right. -/
def unescapeSingle? : List Char → Option (List Char)
  | [] => some []
  | c :: rest =>
    if c = '\\' then
      match rest with
      | [] => none
      | e :: rest => (singleEscape? e).bind fun c => (unescapeSingle? rest).map (c :: ·)
    else (unescapeSingle? rest).map (c :: ·)

variable {a c e : Char} {xs ys cs : List Char}

theorem escapesNext_append (closed : escapesNext xs = false) :
    escapesNext (xs ++ ys) = escapesNext ys := by
  rw [escapesNext, List.foldl_append]
  rw [escapesNext] at closed
  rw [closed, escapesNext]

namespace Guarded

theorem of_not_mem (absent : c ∉ xs) (closed : escapesNext xs = false) : Guarded c xs where
  escaped := by
    rintro before after rfl
    simp at absent
  closed := closed

theorem escape (solid : c ≠ '\\') : Guarded c ['\\', e] where
  escaped := by
    intro before after split
    rcases List.cons_eq_append_iff.mp split with ⟨rfl, first⟩ | ⟨front, rfl, second⟩
    · exact absurd (List.cons.inj first).1 solid
    · rcases List.cons_eq_append_iff.mp second with ⟨rfl, -⟩ | ⟨front, rfl, third⟩
      · rfl
      · simp at third
  closed := rfl

theorem append (h : Guarded c xs) (h' : Guarded c ys) : Guarded c (xs ++ ys) where
  escaped := by
    intro before after split
    rcases List.append_eq_append_iff.mp split with ⟨more, rfl, later⟩ | ⟨more, rfl, rest⟩
    · rw [escapesNext_append h.closed]
      exact h'.escaped more after later
    · rcases List.cons_eq_append_iff.mp rest with ⟨rfl, first⟩ | ⟨others, rfl, -⟩
      · rw [List.append_nil] at h
        rw [← List.append_nil before, escapesNext_append h.closed]
        exact h'.escaped [] after first
      · exact h.escaped before others rfl
  closed := by rw [escapesNext_append h.closed, h'.closed]

theorem flatMap {f : Char → List Char} (h : ∀ a, Guarded c (f a)) : Guarded c (cs.flatMap f) := by
  induction cs with
  | nil => exact of_not_mem List.not_mem_nil rfl
  | cons a cs ih => exact (h a).append ih

end Guarded

theorem guarded_escapeSingle (special : c = '\'' ∨ c = '$') : Guarded c (escapeSingle a) := by
  have solid : c ≠ '\\' := by
    rcases special with rfl | rfl <;> decide
  fun_cases escapeSingle a with
  | case7 backslash quote dollar =>
    have other : c ≠ a := by
      rcases special with rfl | rfl
      · exact Ne.symm quote
      · exact Ne.symm dollar
    exact .of_not_mem (by simpa using other) (by simp [escapesNext, backslash])
  | _ => exact .escape solid

theorem unescapeSingle?_escapeSingle :
    unescapeSingle? (escapeSingle a ++ xs) = (unescapeSingle? xs).map (a :: ·) := by
  fun_cases escapeSingle a with
  | case7 backslash =>
    rw [List.singleton_append, unescapeSingle?.eq_def]
    simp [backslash]
  | _ =>
    subst a
    rfl

theorem unescapeSingle?_flatMap : unescapeSingle? (cs.flatMap escapeSingle) = some cs := by
  induction cs with
  | nil => rfl
  | cons c cs ih => rw [List.flatMap_cons, unescapeSingle?_escapeSingle, ih, Option.map_some]

theorem digitChar_spec : ∀ n < 16,
    n.digitChar ≠ '"' ∧ n.digitChar ≠ '\\' ∧ 0x20 ≤ n.digitChar.toNat := by
  decide

theorem escapeControl_spec {n : Nat} (control : n < 0x20) : '"' ∉ escapeControl n ∧
    escapesNext (escapeControl n) = false ∧ ∀ c ∈ escapeControl n, 0x20 ≤ c.toNat := by
  obtain ⟨quote, backslash, solid⟩ := digitChar_spec (n / 16) (by omega)
  obtain ⟨quote', backslash', solid'⟩ := digitChar_spec (n % 16) (by omega)
  rw [← List.append_nil (escapeControl n), escapeControl_append control]
  refine ⟨?_, ?_, ?_⟩
  · simp [quote.symm, quote'.symm]
  · simp [escapesNext, backslash, backslash']
  · simp [solid, solid']

/-- A character is written as a letter behind a backslash, by its code, or as it is. -/
theorem escapeDouble_cases (a : Char) :
    (∃ e, Json.Tree.simpleEscape? e = some a ∧ 0x20 ≤ e.toNat ∧ escapeDouble a = ['\\', e]) ∨
    (a.toNat < 0x20 ∧ escapeDouble a = escapeControl a.toNat) ∨
    (a ≠ '"' ∧ a ≠ '\\' ∧ 0x20 ≤ a.toNat ∧ escapeDouble a = [a]) := by
  fun_cases escapeDouble a with
  | case8 _ _ _ _ _ _ _ control => exact .inr (.inl ⟨control, rfl⟩)
  | case9 quote backslash _ _ _ _ _ solid =>
    exact .inr (.inr ⟨quote, backslash, Nat.le_of_not_lt solid, rfl⟩)
  | _ =>
    subst a
    exact .inl ⟨_, rfl, by decide, rfl⟩

theorem not_control_of_mem_escapeDouble (mem : c ∈ escapeDouble a) : 0x20 ≤ c.toNat := by
  obtain ⟨e, -, solid, eq⟩ | ⟨control, eq⟩ | ⟨-, -, solid, eq⟩ := escapeDouble_cases a
  · rw [eq, List.mem_pair] at mem
    rcases mem with rfl | rfl
    · decide
    · exact solid
  · rw [eq] at mem
    exact (escapeControl_spec control).2.2 c mem
  · rw [eq, List.mem_singleton] at mem
    rwa [mem]

theorem guarded_escapeDouble : Guarded '"' (escapeDouble a) := by
  obtain ⟨e, -, -, eq⟩ | ⟨control, eq⟩ | ⟨quote, backslash, -, eq⟩ := escapeDouble_cases a
  · rw [eq]
    exact .escape (by decide)
  · obtain ⟨absent, closed, -⟩ := escapeControl_spec control
    rw [eq]
    exact .of_not_mem absent closed
  · rw [eq]
    exact .of_not_mem (by simpa using Ne.symm quote) (by simp [escapesNext, backslash])

end Text

namespace Json.Tree

open Text (escapeDouble escapeDouble_cases escapeControl escapeControl_append)

variable {c e : Char} {cs rest : List Char}

def afterPiece (piece : Piece) (found : List Piece × List Char) : List Piece × List Char :=
  (piece :: found.1, found.2)

theorem pieces?_end : pieces? ('"' :: rest) = some ([], rest) := by
  rw [pieces?.eq_def]
  exact if_pos rfl

theorem pieces?_escape (letter : simpleEscape? e = some c) :
    pieces? ('\\' :: e :: rest) = (pieces? rest).map (afterPiece (.char c)) := by
  have simple : e ≠ 'u' := by
    rintro rfl
    cases letter
  rw [pieces?.eq_def]
  simp only [simple, letter, if_false]
  cases pieces? rest <;> rfl

theorem pieces?_escapeControl {n : Nat} (control : n < 0x20) :
    pieces? (escapeControl n ++ rest) = (pieces? rest).map (afterPiece (.unit n)) := by
  rw [escapeControl_append control, pieces?.eq_def]
  simp only [Synthesis.unit?_of_control control]
  cases pieces? rest <;> rfl

theorem pieces?_plain (quote : c ≠ '"') (backslash : c ≠ '\\') (solid : 0x20 ≤ c.toNat) :
    pieces? (c :: rest) = (pieces? rest).map (afterPiece (.char c)) := by
  rw [pieces?.eq_def]
  simp only [quote, backslash, Nat.not_lt.mpr solid, if_false]
  cases pieces? rest <;> rfl

theorem joinPieces?_control {n : Nat} (control : n < 0x20) {found : List Piece} :
    joinPieces? (.unit n :: found) = (joinPieces? found).map (Char.ofNat n :: ·) := by
  have lone : n < 0xD800 := by omega
  rw [joinPieces?.eq_def]
  exact if_pos (.inl lone)

theorem exists_piece (c : Char) : ∃ piece,
    (∀ rest, pieces? (escapeDouble c ++ rest) = (pieces? rest).map (afterPiece piece)) ∧
    ∀ found, joinPieces? (piece :: found) = (joinPieces? found).map (c :: ·) := by
  obtain ⟨e, letter, -, eq⟩ | ⟨control, eq⟩ | ⟨quote, backslash, solid, eq⟩ :=
    escapeDouble_cases c
  · exact ⟨.char c, fun rest => by rw [eq]; exact pieces?_escape letter, fun found => rfl⟩
  · refine ⟨.unit c.toNat, fun rest => by rw [eq, pieces?_escapeControl control], ?_⟩
    intro found
    rw [joinPieces?_control control, Char.ofNat_toNat]
  · exact ⟨.char c, fun rest => by rw [eq]; exact pieces?_plain quote backslash solid,
      fun found => rfl⟩

theorem string?_flatMap :
    string? (cs.flatMap escapeDouble ++ '"' :: rest) = some (some (.ofList cs), rest) := by
  have read : ∃ found, pieces? (cs.flatMap escapeDouble ++ '"' :: rest) = some (found, rest) ∧
      joinPieces? found = some cs := by
    induction cs with
    | nil => exact ⟨[], pieces?_end, rfl⟩
    | cons c cs ih =>
      obtain ⟨found, read, joined⟩ := ih
      obtain ⟨piece, reads, joins⟩ := exists_piece c
      refine ⟨piece :: found, ?_, by rw [joins, joined, Option.map_some]⟩
      rw [List.flatMap_cons, List.append_assoc, reads, read, Option.map_some, afterPiece]
  obtain ⟨found, read, joined⟩ := read
  simp only [string?, read, Option.map_some, joined]

end Json.Tree

theorem Json.parse?_quoteDouble {s : String} :
    Value.parse? (Text.quoteDouble s) = some (.string s) := by
  have read : Json.Tree.parse? (Text.quoteDouble s) = some (.string (some s)) := by
    rw [Json.Tree.parse?, Text.quoteDouble, String.toList_ofList, List.cons_append]
    simp [Json.Tree.read?, Json.Tree.skipSpace, Json.Tree.isSpace, Json.Tree.string?_flatMap]
  rw [Value.parse?, read]
  rfl

namespace Text

theorem line_of_mem_escapeSingle (mem : c ∈ escapeSingle a) : c ≠ '\n' ∧ c ≠ '\r' := by
  have single := endsLine_of_mem_escapeSingle a c mem
  rwa [Language.endsLine, Bool.or_eq_false_iff, beq_eq_false_iff_ne, beq_eq_false_iff_ne] at single

/-- Quoting loses nothing, and nothing of a quoted text counts as more than text. Between single
quotes it has no line end, and neither quotes nor dollar signs without their backslashes; between
double quotes no control character and no quote without its backslash, so that a JSON string ends
where the quotes do, whatever follows. -/
theorem quoted_reversible (s : String) :
    (∃ body, (quoteSingle s).toList = '\'' :: (body ++ ['\'']) ∧
      (∀ c ∈ body, c ≠ '\n' ∧ c ≠ '\r') ∧ Guarded '\'' body ∧ Guarded '$' body ∧
      unescapeSingle? body = some s.toList) ∧
    ∃ body, (quoteDouble s).toList = '"' :: (body ++ ['"']) ∧
      (∀ c ∈ body, 0x20 ≤ c.toNat) ∧ Guarded '"' body ∧
      (∀ rest, Json.Tree.string? (body ++ '"' :: rest) = some (some s, rest)) ∧
      Value.parse? (quoteDouble s) = some (.string s) := by
  have single : ∀ c ∈ s.toList.flatMap escapeSingle, c ≠ '\n' ∧ c ≠ '\r' :=
    List.forall_mem_flatMap.mpr fun a _ c mem => line_of_mem_escapeSingle mem
  have double : ∀ c ∈ s.toList.flatMap escapeDouble, 0x20 ≤ c.toNat :=
    List.forall_mem_flatMap.mpr fun a _ c mem => not_control_of_mem_escapeDouble mem
  constructor
  · refine ⟨_, ?_, single, .flatMap fun a => guarded_escapeSingle (.inl rfl),
      .flatMap fun a => guarded_escapeSingle (.inr rfl), unescapeSingle?_flatMap⟩
    rw [quoteSingle, String.toList_ofList, List.cons_append]
  · refine ⟨_, ?_, double, .flatMap fun a => guarded_escapeDouble, fun rest => ?_,
      Json.parse?_quoteDouble⟩
    · rw [quoteDouble, String.toList_ofList, List.cons_append]
    · rw [Json.Tree.string?_flatMap, String.ofList_toList]

end Text

end Typesmith
