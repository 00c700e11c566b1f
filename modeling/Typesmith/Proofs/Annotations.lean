import Typesmith.Proofs.Comments

/-! # Annotations of string encoding

A field of a 64-bit format travels as a string, which each language is told in its own way: by an
option of a tag in Go, by a line of its own in TypeScript and by converters in Dart. A declaration
has the annotation for such a field, and otherwise exactly where a name, a type or a description
brings it along.
-/

namespace Typesmith

namespace Text

theorem trim_of_ends {cs : List Char} {c d : Char} (first : isBlank c = false)
    (last : isBlank d = false) : trim (c :: (cs ++ [d])) = c :: (cs ++ [d]) := by
  simp [trim, trimStart, trimEnd, first, last]

theorem endsLine_of_mem_escapeSingle (a : Char) :
    ∀ c ∈ escapeSingle a, Language.dart.endsLine c = false := by
  rw [escapeSingle]
  apply eq_false_of_any
  split_ifs
  any_goals decide
  simp_all [Language.endsLine]

end Text

namespace Language

variable {language : Language} {description : Option String} {xs ys line : List Char}

def fieldComment (language : Language) (description : Option String) : String :=
  (description.map (Naming.commentLines language.commentMarker)).getD ""

theorem mem_lines_fieldComment_append (h : line ≠ language.commentMarker.toList) :
    line ∈ language.lines ((language.fieldComment description).toList ++ ys) ↔
      (∃ text ∈ description, ∃ row ∈ language.rows text,
        line ∈ row.modifyHead (language.commentMarker.toList ++ ·)) ∨
      line ∈ language.lines ys := by
  cases description with
  | none => simp [fieldComment]
  | some text => simp [fieldComment, mem_lines_comment_append h]

theorem lines_append_semicolon (language : Language) (xs : List Char) :
    ∃ front last, language.lines xs = front ++ [last] ∧
      language.lines (xs ++ [';']) = front ++ [last ++ [';']] := by
  obtain ⟨front, last, split, append⟩ := splitOnP_append language.endsLine xs
  have single : [';'].splitOnP language.endsLine = [[';']] := by cases language <;> rfl
  exact ⟨front, last, split, by rw [lines, append, single, List.modifyHead_cons]⟩

end Language

namespace Synthesis

namespace Go

def rawTag (declaration : String) : List Char :=
  ((declaration.toList.splitOn '\x60').dropLast.getLast?).getD []

/-- The options in the tag of a declaration: what its commas set apart after the name, without the
closing quote. -/
def tagOptions (declaration : String) : List (List Char) :=
  ((rawTag declaration).dropLast.splitOn ',').tail

/-- The options that a wire name brings into its tag by commas of its own. -/
def nameOptions (name : String) : List (List Char) :=
  (((name.toList.splitOn '\x60').getLast?.getD []).splitOn ',').tail

/-- The options that the tag of a field is written with. -/
def keyOptions (field : Field) : String :=
  if field.encodesAsString then "string,omitempty" else "omitempty"

theorem splitOn_keyOptions (field : Field) : (keyOptions field).toList.splitOn ',' =
    if field.encodesAsString then ["string".toList, "omitempty".toList]
      else ["omitempty".toList] := by
  rw [keyOptions]
  cases field.encodesAsString <;> rfl

theorem rawTag_of_quoted (before tag : List Char) :
    rawTag (.ofList (before ++ '\x60' :: (tag ++ ['\x60']))) =
      ((tag.splitOn '\x60').getLast?).getD [] := by
  have closed : ['\x60'].splitOn '\x60' = [[], []] := rfl
  have tag_split : (tag ++ ['\x60']).splitOn '\x60' = tag.splitOn '\x60' ++ [[]] :=
    List.splitOn_append_cons_self tag []
  rw [rawTag, String.toList_ofList, List.splitOn_append_cons_self, tag_split, ← List.append_assoc,
    List.dropLast_concat, List.getLast?_append,
    List.getLast?_eq_some_getLast (List.splitOn_ne_nil '\x60' tag), Option.some_or]

/-- A backquote in the wire name cuts off what stands before it. -/
theorem rawTag_declare (field : Field) : ∃ start, ',' ∉ start ∧
    rawTag (declare field) = start ++ (field.name.toList.splitOn '\x60').getLast?.getD [] ++
      ',' :: (keyOptions field).toList ++ ['"'] := by
  have declare_eq : declare field =
      .ofList ((Language.go.fieldComment field.description ++ fieldName field.name ++ " " ++
        declaredType field.tag ++ " ").toList ++ '\x60' :: ("json:\"".toList ++
          (field.name.toList ++ (',' :: (keyOptions field).toList ++ ['"'])) ++ ['\x60'])) := by
    simp [declare, keyOptions, Language.fieldComment, ← String.toList_inj]
  have clean : ∀ c ∈ ',' :: (keyOptions field).toList ++ ['"'], (c == '\x60') = false := by
    apply eq_false_of_any
    rw [keyOptions]
    cases field.encodesAsString <;> decide
  obtain ⟨front, last, split, append⟩ := splitOnP_append (· == '\x60') field.name.toList
  rw [declare_eq, rawTag_of_quoted, List.splitOn_eq_splitOnP,
    splitOnP_append_of_forall (eq_false_of_any (by decide)), append,
    List.splitOnP_eq_singleton clean,
    List.splitOn_eq_splitOnP, split, List.getLast?_concat]
  -- The key stays before the name unless a backquote comes between them.
  cases front with
  | nil => exact ⟨"json:\"".toList, by decide, by simp⟩
  | cons first front => exact ⟨[], by simp, by simp [List.getLast?_cons]⟩

theorem tagOptions_declare (field : Field) :
    tagOptions (declare field) = nameOptions field.name ++
      if field.encodesAsString then ["string".toList, "omitempty".toList]
      else ["omitempty".toList] := by
  obtain ⟨start, clean, raw⟩ := rawTag_declare field
  have uncut : ∀ c ∈ start, (c == ',') = false := fun c mem =>
    beq_eq_false_iff_ne.mpr fun eq => clean (eq ▸ mem)
  rw [tagOptions, raw, List.dropLast_concat, List.splitOn_append_cons_self, splitOn_keyOptions,
    List.splitOn_eq_splitOnP, splitOnP_append_of_forall uncut, List.tail_append_of_ne_nil (by simp),
    List.tail_modifyHead]
  rfl

end Go

namespace TypeScript

def encodingLine : String := "// @encoding string"

def member (field : Field) : String :=
  fieldName field.name ++ (if field.required then "" else "?") ++ ": " ++ typeName field.tag

theorem encodingLine_mem_row_iff {row : List (List Char)} :
    encodingLine.toList ∈ row.modifyHead (Language.typescript.commentMarker.toList ++ ·) ↔
      row.head? = some "@encoding string".toList ∨ encodingLine.toList ∈ row.tail := by
  have marked : encodingLine.toList =
    Language.typescript.commentMarker.toList ++ "@encoding string".toList := by decide +kernel
  rw [mem_modifyHead_iff, marked]
  refine or_congr_left ?_
  constructor
  · rintro ⟨first, head, eq⟩
    rw [head, List.append_cancel_left eq]
  · exact fun head => ⟨_, head, rfl⟩

theorem encodingLine_mem_encoding_append_iff {field : Field} {ys : List Char} :
    encodingLine.toList ∈ Language.typescript.lines
        ((if field.encodesAsString then stringEncoding else "").toList ++ ys) ↔
      field.encodesAsString ∨ encodingLine.toList ∈ Language.typescript.lines ys := by
  cases field.encodesAsString with
  | false => simp
  | true =>
    have line : stringEncoding.toList = encodingLine.toList ++ ['\n'] := by decide +kernel
    have whole : Language.typescript.lines encodingLine.toList = [encodingLine.toList] := by
      decide +kernel
    rw [if_pos rfl, line, List.append_assoc, List.singleton_append,
      Language.lines_append_newline, whole]
    simp

theorem encodingLine_mem_member_iff {field : Field} :
    encodingLine.toList ∈ Language.typescript.lines ((member field).toList ++ [';']) ↔
      encodingLine.toList ∈ (Language.typescript.lines (member field).toList).dropLast := by
  obtain ⟨front, last, split, append⟩ :=
    Language.typescript.lines_append_semicolon (member field).toList
  have ended : encodingLine.toList ≠ last ++ [';'] := fun eq => by
    have := congrArg List.getLast? eq
    rw [List.getLast?_concat] at this
    exact absurd this (by decide)
  simp [split, append, ended]

theorem encodingLine_mem_declare_iff {field : Field} :
    encodingLine.toList ∈ Language.typescript.lines (declare field).toList ↔
      (∃ description ∈ field.description, ∃ row ∈ Language.typescript.rows description,
        row.head? = some "@encoding string".toList ∨ encodingLine.toList ∈ row.tail) ∨
      field.encodesAsString ∨
      encodingLine.toList ∈ (Language.typescript.lines (member field).toList).dropLast := by
  have declare_eq : (declare field).toList =
      (Language.typescript.fieldComment field.description).toList ++
        ((if field.encodesAsString then stringEncoding else "").toList ++
          ((member field).toList ++ [';'])) := by
    simp [declare, member, Language.fieldComment]
  rw [declare_eq, Language.mem_lines_fieldComment_append (by decide),
    encodingLine_mem_encoding_append_iff, encodingLine_mem_member_iff]
  simp only [encodingLine_mem_row_iff]

end TypeScript

namespace Dart

inductive Reading where
  | plain | quoted | escaped
deriving DecidableEq

def Reading.next : Reading → Char → Reading
  | .plain, c => if c = '\'' then .quoted else .plain
  | .quoted, c => if c = '\\' then .escaped else if c = '\'' then .plain else .quoted
  | .escaped, _ => .quoted

def splitArguments : Reading → List Char → List (List Char)
  | _, [] => [[]]
  | reading, c :: rest =>
    if reading = .plain ∧ c = ',' then [] :: splitArguments .plain rest
    else (splitArguments (reading.next c) rest).modifyHead (c :: ·)

def arguments (text : List Char) : List (List Char) :=
  (splitArguments .plain text).map Text.trim

def converterArguments : List (List Char) :=
  ["fromJson: int64FromString".toList, "toJson: int64ToString".toList]

/-- Whether a line is an annotation of a field that has both converters among its arguments. -/
def HasConverters (line : List Char) : Prop :=
  ∃ inside, line = "@JsonKey(".toList ++ inside ++ [')'] ∧ converterArguments ⊆ arguments inside

def member (field : Field) : String :=
  typeName field.tag ++ nullableMark field ++ " " ++ fieldName field.name

variable {field : Field} {line ys : List Char}

theorem splitArguments_escapeSingle (c : Char) :
    splitArguments .quoted (Text.escapeSingle c ++ ys) =
      (splitArguments .quoted ys).modifyHead (Text.escapeSingle c ++ ·) := by
  unfold Text.escapeSingle
  split_ifs <;>
    simp_all [splitArguments, Reading.next, List.modifyHead_modifyHead, Function.comp_def]

theorem splitArguments_quoted (cs : List Char) :
    splitArguments .quoted (cs.flatMap Text.escapeSingle ++ ys) =
      (splitArguments .quoted ys).modifyHead (cs.flatMap Text.escapeSingle ++ ·) := by
  induction cs with
  | nil => cases h : splitArguments .quoted ys <;> simp [h]
  | cons c rest ih =>
    rw [List.flatMap_cons, List.append_assoc, splitArguments_escapeSingle, ih,
      List.modifyHead_modifyHead]
    simp only [Function.comp_def, List.append_assoc]

def nameArgument (name : String) : String :=
  "name: " ++ Text.quoteSingle name

variable {name : String}

theorem nameArgument_toList : (nameArgument name).toList =
    'n' :: ("ame: '".toList ++ name.toList.flatMap Text.escapeSingle ++ ['\'']) := by
  simp [nameArgument, Text.quoteSingle]

theorem converterArguments_subset : converterArguments ⊆ arguments converters.toList := by
  decide +kernel

theorem trim_nameArgument : Text.trim (nameArgument name).toList = (nameArgument name).toList := by
  rw [nameArgument_toList]
  exact Text.trim_of_ends (by decide) (by decide)

theorem endsLine_of_mem_nameArgument :
    ∀ c ∈ (nameArgument name).toList, Language.dart.endsLine c = false := by
  rw [nameArgument_toList]
  have opening : ∀ c ∈ "ame: '".toList, Language.dart.endsLine c = false :=
    eq_false_of_any (by decide)
  intro c mem
  simp only [List.mem_cons, List.mem_append, List.mem_flatMap, List.not_mem_nil, or_false] at mem
  rcases mem with rfl | (mem | ⟨a, -, mem⟩) | rfl
  · rfl
  · exact opening c mem
  · exact Text.endsLine_of_mem_escapeSingle a c mem
  · rfl

theorem splitArguments_nameArgument :
    splitArguments .plain ((nameArgument name).toList ++ ys) =
      (splitArguments .plain ys).modifyHead ((nameArgument name).toList ++ ·) := by
  rw [nameArgument_toList]
  simp [splitArguments, Reading.next, splitArguments_quoted, List.modifyHead_modifyHead,
    Function.comp_def]

theorem arguments_nameArgument :
    arguments (nameArgument name).toList = [(nameArgument name).toList] := by
  have nothing : splitArguments .plain [] = [[]] := rfl
  have alone := @splitArguments_nameArgument [] name
  rw [nothing, List.modifyHead_cons, List.append_nil] at alone
  rw [arguments, alone, List.map_singleton, trim_nameArgument]

theorem arguments_nameArgument_append :
    arguments (nameArgument name ++ ", " ++ converters).toList =
      (nameArgument name).toList :: converterArguments := by
  have others : splitArguments .plain (", ".toList ++ converters.toList) =
    [] :: converterArguments.map (' ' :: ·) := by decide +kernel
  have trimmed : (converterArguments.map (' ' :: ·)).map Text.trim = converterArguments := by
    decide +kernel
  rw [arguments, String.toList_append, String.toList_append, List.append_assoc,
    splitArguments_nameArgument, others, List.modifyHead_cons, List.append_nil, List.map_cons,
    trim_nameArgument, trimmed]

/-- An annotation is one line, in which a reader finds the converters exactly where they were
written, whatever the wire name. -/
theorem jsonKey_cases (field : Field) :
    (jsonKey field = "" ∧ field.encodesAsString = false) ∨
    ∃ inside, jsonKey field = "@JsonKey(" ++ inside ++ ")\n" ∧
      (∀ c ∈ inside.toList, Language.dart.endsLine c = false) ∧
      (converterArguments ⊆ arguments inside.toList ↔ field.encodesAsString) := by
  have name_eq : "name: " ++ Text.quoteSingle field.name = nameArgument field.name := rfl
  have clean : ∀ c ∈ converters.toList, Language.dart.endsLine c = false :=
    eq_false_of_any (by decide +kernel)
  have unconverted : ¬ converterArguments ⊆ [(nameArgument field.name).toList] := by
    rw [nameArgument_toList]
    simp [converterArguments]
  rw [jsonKey, keyArguments, name_eq]
  by_cases same : fieldName field.name = field.name <;> cases encodes : field.encodesAsString
  · exact .inl ⟨by simp [same], rfl⟩
  · exact .inr ⟨converters, by simp [same], clean, iff_of_true converterArguments_subset rfl⟩
  · refine .inr ⟨nameArgument field.name, by simp [same], endsLine_of_mem_nameArgument, ?_⟩
    simpa [arguments_nameArgument] using unconverted
  · refine .inr ⟨nameArgument field.name ++ ", " ++ converters, ?_, ?_, iff_of_true ?_ rfl⟩
    · simp [same, String.intercalate_cons_cons]
    · have comma : ∀ c ∈ ", ".toList, Language.dart.endsLine c = false :=
        eq_false_of_any (by decide)
      intro c mem
      rw [String.toList_append, String.toList_append, List.mem_append, List.mem_append] at mem
      rcases mem with (mem | mem) | mem
      · exact endsLine_of_mem_nameArgument c mem
      · exact comma c mem
      · exact clean c mem
    · rw [arguments_nameArgument_append]
      exact List.subset_cons_self _ _

theorem HasConverters.head (h : HasConverters line) : line.head? = some '@' := by
  obtain ⟨inside, rfl, -⟩ := h
  rfl

theorem HasConverters.last (h : HasConverters line) : line.getLast? = some ')' := by
  obtain ⟨inside, rfl, -⟩ := h
  rw [List.getLast?_concat]

theorem hasConverters_iff {inside : List Char} :
    HasConverters ("@JsonKey(".toList ++ inside ++ [')']) ↔
      converterArguments ⊆ arguments inside := by
  constructor
  · rintro ⟨other, eq, sub⟩
    rwa [List.append_cancel_left (List.append_cancel_right eq)]
  · exact fun sub => ⟨inside, rfl, sub⟩

/-- The first line of a row is behind the marker, so it is no annotation. -/
theorem exists_mem_fieldComment_append_iff {description : Option String} :
    (∃ line ∈ Language.dart.lines ((Language.dart.fieldComment description).toList ++ ys),
      HasConverters line) ↔
    (∃ text ∈ description, ∃ row ∈ Language.dart.rows text, ∃ line ∈ row.tail,
      HasConverters line) ∨ ∃ line ∈ Language.dart.lines ys, HasConverters line := by
  have unmarked {line : List Char} (h : HasConverters line) (rest : List Char) :
      line ≠ Language.dart.commentMarker.toList ++ rest := by
    rintro rfl
    exact absurd h.head (by simp [Language.commentMarker])
  have more {line : List Char} (h : HasConverters line) :=
    @Language.mem_lines_fieldComment_append .dart description ys line
      (List.append_nil Language.dart.commentMarker.toList ▸ unmarked h [])
  constructor
  · rintro ⟨line, mem, h⟩
    rcases (more h).mp mem with ⟨text, text_mem, row, row_mem, mem⟩ | mem
    · rcases mem_modifyHead_iff.mp mem with ⟨first, -, eq⟩ | mem
      · exact absurd eq (unmarked h first)
      · exact .inl ⟨text, text_mem, row, row_mem, line, mem, h⟩
    · exact .inr ⟨line, mem, h⟩
  · rintro (⟨text, text_mem, row, row_mem, line, mem, h⟩ | ⟨line, mem, h⟩)
    · exact ⟨line, (more h).mpr
        (.inl ⟨text, text_mem, row, row_mem, mem_modifyHead_iff.mpr (.inr mem)⟩), h⟩
    · exact ⟨line, (more h).mpr (.inr mem), h⟩

theorem exists_mem_jsonKey_append_iff :
    (∃ line ∈ Language.dart.lines ((jsonKey field).toList ++ ys), HasConverters line) ↔
      field.encodesAsString ∨ ∃ line ∈ Language.dart.lines ys, HasConverters line := by
  rcases jsonKey_cases field with ⟨eq, wide⟩ | ⟨inside, eq, clean, converted⟩
  · simp [eq, wide]
  · have line_eq : (jsonKey field).toList ++ ys =
        ("@JsonKey(".toList ++ inside.toList ++ [')']) ++ '\n' :: ys := by simp [eq]
    have opening : ∀ c ∈ "@JsonKey(".toList, Language.dart.endsLine c = false :=
      eq_false_of_any (by decide)
    have clean_line : ∀ c ∈ "@JsonKey(".toList ++ inside.toList ++ [')'],
        Language.dart.endsLine c = false := by
      intro c mem
      rcases List.mem_append.mp mem with mem | mem
      · exact (List.mem_append.mp mem).elim (opening c) (clean c)
      · rw [List.mem_singleton.mp mem]
        rfl
    have single : Language.dart.lines ("@JsonKey(".toList ++ inside.toList ++ [')']) =
      ["@JsonKey(".toList ++ inside.toList ++ [')']] := List.splitOnP_eq_singleton clean_line
    rw [line_eq, Language.lines_append_newline, single, ← converted, ← hasConverters_iff]
    simp

theorem exists_mem_member_iff :
    (∃ line ∈ Language.dart.lines ("final ".toList ++ ((member field).toList ++ [';'])),
      HasConverters line) ↔
    ∃ line ∈ (Language.dart.lines (member field).toList).tail.dropLast, HasConverters line := by
  obtain ⟨front, last, split, append⟩ := Language.dart.lines_append_semicolon (member field).toList
  have first {rest : List Char} : ¬ HasConverters ('f' :: rest) := fun h =>
    absurd h.head (by simp)
  have ended : ¬ HasConverters (last ++ [';']) := fun h => absurd h.last (by simp)
  have final : Language.dart.lines ("final ".toList ++ ((member field).toList ++ [';'])) =
      (front ++ [last ++ [';']]).modifyHead ("final ".toList ++ ·) := by
    rw [← append]
    exact splitOnP_append_of_forall (eq_false_of_any (by decide))
  rw [final, split]
  cases front with
  | nil => simp [first]
  | cons _ front => simp [first, ended, or_and_right, exists_or]

theorem exists_mem_declare_iff (field : Field) :
    (∃ line ∈ Language.dart.lines (declare field).toList, HasConverters line) ↔
      (∃ description ∈ field.description, ∃ row ∈ Language.dart.rows description,
        ∃ line ∈ row.tail, HasConverters line) ∨
      field.encodesAsString ∨
      ∃ line ∈ (Language.dart.lines (member field).toList).tail.dropLast, HasConverters line := by
  have declare_eq : (declare field).toList =
      (Language.dart.fieldComment field.description).toList ++
        ((jsonKey field).toList ++ ("final ".toList ++ ((member field).toList ++ [';']))) := by
    simp [declare, member, Language.fieldComment]
  rw [declare_eq, exists_mem_fieldComment_append_iff, exists_mem_jsonKey_append_iff,
    exists_mem_member_iff]

end Dart

/-- A declaration has its annotation of string encoding where the field travels as a string. Else it
has one exactly where some text brings it along: in Go a wire name with the option between its
commas, in TypeScript a description that reads as the line or goes on with it, in Dart a description
that goes on with an annotation, and in these two also a name or a type of several lines. -/
theorem annotated_iff (field : Field) :
    ("string".toList ∈ Go.tagOptions (Go.declare field) ↔
      field.encodesAsString ∨ "string".toList ∈ Go.nameOptions field.name) ∧
    (TypeScript.encodingLine.toList ∈
        Language.typescript.lines (TypeScript.declare field).toList ↔
      field.encodesAsString ∨
      (∃ description ∈ field.description, ∃ row ∈ Language.typescript.rows description,
        row.head? = some "@encoding string".toList ∨
          TypeScript.encodingLine.toList ∈ row.tail) ∨
      TypeScript.encodingLine.toList ∈
        (Language.typescript.lines (TypeScript.member field).toList).dropLast) ∧
    ((∃ line ∈ Language.dart.lines (Dart.declare field).toList, Dart.HasConverters line) ↔
      field.encodesAsString ∨
      (∃ description ∈ field.description, ∃ row ∈ Language.dart.rows description,
        ∃ line ∈ row.tail, Dart.HasConverters line) ∨
      ∃ line ∈ (Language.dart.lines (Dart.member field).toList).tail.dropLast,
        Dart.HasConverters line) := by
  refine ⟨?_, ?_, ?_⟩
  · rw [Go.tagOptions_declare, List.mem_append, or_comm]
    cases field.encodesAsString <;> simp
  · rw [TypeScript.encodingLine_mem_declare_iff, or_left_comm]
  · rw [Dart.exists_mem_declare_iff, or_left_comm]

/-- In each language some field of 32 bits has the annotation: by a comma in its name in Go, by its
description in TypeScript, and by a carriage return in its description in Dart. -/
theorem narrow_annotated :
    (∃ field : Field, field.format = some "int32" ∧ field.encodesAsString = false ∧
      "string".toList ∈ Go.tagOptions (Go.declare field)) ∧
    (∃ field : Field, field.format = some "int32" ∧ field.encodesAsString = false ∧
      TypeScript.encodingLine.toList ∈
        Language.typescript.lines (TypeScript.declare field).toList) ∧
    ∃ field : Field, field.format = some "int32" ∧ field.encodesAsString = false ∧
      ∃ line ∈ Language.dart.lines (Dart.declare field).toList, Dart.HasConverters line := by
  have wide (name : String) (description : Option String) : Field.encodesAsString
      { name, tag := .scalar .int32, description, format := some "int32" } = false := by
    simp [Field.encodesAsString, ScalarKind.ofFormat?, ScalarKind.isWide]
  refine ⟨⟨_, rfl, wide "a,string" none, ?_⟩, ⟨_, rfl, wide "age" (some "@encoding string"), ?_⟩,
    ⟨_, rfl, wide "age" (some ("Age.\r@JsonKey(" ++ Dart.converters ++ ")")), ?_⟩⟩
  · rw [Go.tagOptions_declare]
    exact List.mem_append_left _ (by decide +kernel)
  · refine TypeScript.encodingLine_mem_declare_iff.mpr (.inl ⟨_, rfl, ?_⟩)
    exact ⟨["@encoding string".toList], by decide +kernel, .inl rfl⟩
  · refine (Dart.exists_mem_declare_iff _).mpr (.inl ⟨_, rfl, ?_⟩)
    refine ⟨["Age.".toList, "@JsonKey(".toList ++ Dart.converters.toList ++ [')']],
      by decide +kernel, _, List.mem_singleton_self _, ?_⟩
    exact Dart.hasConverters_iff.mpr Dart.converterArguments_subset

end Synthesis

end Typesmith
