import Mathlib.Data.List.DropRight
import Mathlib.Data.List.Nodup
import Typesmith.Proofs.Batch
import Typesmith.Proofs.Encoding

/-! # Identifiers

The identifier of a field has the words of its wire name, each with a capital letter in place of the
underscore before it. If the name is in snake case, its words can be told apart by these letters, so
different names have different identifiers in declarations and in literals.
-/

namespace Typesmith

open Json (Value)
open OpenApi (Node)

namespace Naming

def isLowerOrDigit (c : Char) : Bool :=
  c.isLower || c.isDigit

/-- A lower-case letter, with such letters and digits after it. -/
inductive IsWord : List Char → Prop

  | intro {first rest} : first.isLower = true → rest.all isLowerOrDigit = true →
      IsWord (first :: rest)

/-- Words with one underscore between any two of them. -/
inductive IsSnake : List Char → Prop

  | word {word} : IsWord word → IsSnake word

  | join {word rest} : IsWord word → IsSnake rest → IsSnake (word ++ '_' :: rest)

def IsSnakeCase (name : String) : Prop :=
  IsSnake name.toList

/-- The words of an identifier, with an underscore for every capital letter. -/
def wordsOf (cs : List Char) : List Char :=
  cs.flatMap fun c => if c.isUpper then ['_', c.toLower] else [c]

structure IsIdentifier (cs : List Char) : Prop where
  nonempty : cs ≠ []
  isAlphanum : ∀ c ∈ cs, c.isAlphanum = true

variable {c : Char} {cs ds word : List Char} {name other : String}

theorem exists_ofNat_of_isLower (h : c.isLower = true) : ∃ n < 26, c = .ofNat (97 + n) := by
  obtain ⟨first, last⟩ := Bool.and_eq_true_iff.mp h
  have low : 97 ≤ c.toNat := UInt32.le_iff_toNat_le.mp (of_decide_eq_true first)
  have high : c.toNat ≤ 122 := UInt32.le_iff_toNat_le.mp (of_decide_eq_true last)
  exact ⟨c.toNat - 97, by omega, by rw [Nat.add_sub_cancel' low, Char.ofNat_toNat]⟩

theorem exists_ofNat_of_isDigit (h : c.isDigit = true) : ∃ n < 10, c = .ofNat (48 + n) := by
  obtain ⟨low, high⟩ : 48 ≤ c.toNat ∧ c.toNat ≤ 57 := Char.isDigit_iff_toNat.mp h
  exact ⟨c.toNat - 48, by omega, by rw [Nat.add_sub_cancel' low, Char.ofNat_toNat]⟩

/-- What raises a letter at the start of a word, and what undoes it. -/
structure IsCapital (capital c : Char) : Prop where
  isLower : c.isLower = true
  upper : Text.upper c = [capital]
  lower : Text.lower capital = [c]
  isUpper : capital.isUpper = true
  isAlphanum : capital.isAlphanum = true
  toLower : capital.toLower = c

theorem isCapital_toUpper (h : c.isLower = true) : IsCapital c.toUpper c := by
  obtain ⟨n, small, rfl⟩ := exists_ofNat_of_isLower h
  have letters : ∀ n < 26, (Char.ofNat (97 + n)).toNat < 128 ∧
      (Char.ofNat (97 + n)).toUpper.toNat < 128 ∧ (Char.ofNat (97 + n)).toUpper.isUpper = true ∧
      (Char.ofNat (97 + n)).toUpper.isAlphanum = true ∧
      (Char.ofNat (97 + n)).toUpper.toLower = .ofNat (97 + n) := by decide
  obtain ⟨ascii, ascii_upper, isUpper, isAlphanum, toLower⟩ := letters n small
  have lower : Text.lower (Char.ofNat (97 + n)).toUpper = [.ofNat (97 + n)] := by
    rw [Text.lower, if_pos ascii_upper, toLower]
  exact ⟨h, if_pos ascii, lower, isUpper, isAlphanum, toLower⟩

theorem isLowerOrDigit_of_isLower (h : c.isLower = true) : isLowerOrDigit c = true := by
  rw [isLowerOrDigit, h, Bool.true_or]

theorem plain_of_isLowerOrDigit (h : isLowerOrDigit c = true) :
    c.isUpper = false ∧ isSeparator c = false ∧ c.isAlphanum = true := by
  rcases Bool.or_eq_true_iff.mp h with h | h
  · obtain ⟨n, small, rfl⟩ := exists_ofNat_of_isLower h
    revert n
    decide
  · obtain ⟨n, small, rfl⟩ := exists_ofNat_of_isDigit h
    revert n
    decide

theorem wordsOf_append : wordsOf (cs ++ ds) = wordsOf cs ++ wordsOf ds :=
  List.flatMap_append

theorem wordsOf_cons_of_isUpper (h : c.isUpper = true) :
    wordsOf (c :: cs) = '_' :: c.toLower :: wordsOf cs := by
  rw [wordsOf, List.flatMap_cons, if_pos h]
  rfl

theorem wordsOf_cons_of_not_isUpper (h : c.isUpper = false) :
    wordsOf (c :: cs) = c :: wordsOf cs := by
  rw [wordsOf, List.flatMap_cons, h]
  rfl

theorem wordsOf_eq_self (h : ∀ c ∈ cs, c.isUpper = false) : wordsOf cs = cs := by
  induction cs with
  | nil => rfl
  | cons c rest ih =>
    obtain ⟨first, others⟩ := List.forall_mem_cons.mp h
    rw [wordsOf_cons_of_not_isUpper first, ih others]

namespace IsWord

theorem isLowerOrDigit (h : IsWord word) (mem : c ∈ word) : isLowerOrDigit c = true := by
  cases h with
  | intro first rest =>
    rcases List.mem_cons.mp mem with rfl | mem
    · exact isLowerOrDigit_of_isLower first
    · exact List.all_eq_true.mp rest c mem

theorem exists_raiseFirst (h : IsWord word) : ∃ capital first rest, word = first :: rest ∧
    raiseFirst word = capital :: rest ∧ IsCapital capital first ∧ wordsOf rest = rest := by
  cases h with
  | @intro first rest lower inner =>
    have capital := isCapital_toUpper lower
    refine ⟨first.toUpper, first, rest, rfl, ?_, capital, ?_⟩
    · rw [raiseFirst, capital.upper, List.singleton_append]
    · exact wordsOf_eq_self fun c mem =>
        (plain_of_isLowerOrDigit (List.all_eq_true.mp inner c mem)).1

theorem wordsOf_raiseFirst (h : IsWord word) : wordsOf (raiseFirst word) = '_' :: word := by
  obtain ⟨capital, first, rest, rfl, raised, isCapital, kept⟩ := h.exists_raiseFirst
  rw [raised, wordsOf_cons_of_isUpper isCapital.isUpper, isCapital.toLower, kept]

theorem isAlphanum_raiseFirst (h : IsWord word) : ∀ c ∈ raiseFirst word, c.isAlphanum = true := by
  obtain ⟨capital, first, rest, rfl, raised, isCapital, -⟩ := h.exists_raiseFirst
  rw [raised]
  refine List.forall_mem_cons.mpr ⟨isCapital.isAlphanum, fun c mem => ?_⟩
  exact (plain_of_isLowerOrDigit (h.isLowerOrDigit (List.mem_cons_of_mem first mem))).2.2

theorem pascalChars_eq (h : IsWord word) : pascalChars word = raiseFirst word := by
  have whole : ∀ c ∈ word, isSeparator c = false := fun c mem =>
    (plain_of_isLowerOrDigit (h.isLowerOrDigit mem)).2.1
  rw [pascalChars, List.splitOnP_eq_singleton whole, List.flatMap_singleton]

theorem pascalChars_append (h : IsWord word) :
    pascalChars (word ++ '_' :: cs) = raiseFirst word ++ pascalChars cs := by
  rw [← h.pascalChars_eq, pascalChars, pascalChars, pascalChars,
    List.splitOnP_append_cons word cs rfl, List.flatMap_append]

end IsWord

namespace IsSnake

theorem wordsOf_pascalChars (h : IsSnake cs) : wordsOf (pascalChars cs) = '_' :: cs := by
  induction h with
  | word first => rw [first.pascalChars_eq, first.wordsOf_raiseFirst]
  | join first _ ih =>
    rw [first.pascalChars_append, wordsOf_append, first.wordsOf_raiseFirst, ih, List.cons_append]

theorem isAlphanum_pascalChars (h : IsSnake cs) : ∀ c ∈ pascalChars cs, c.isAlphanum = true := by
  induction h with
  | word first =>
    rw [first.pascalChars_eq]
    exact first.isAlphanum_raiseFirst
  | join first _ ih =>
    rw [first.pascalChars_append]
    exact List.forall_mem_append.mpr ⟨first.isAlphanum_raiseFirst, ih⟩

theorem exists_pascalChars (h : IsSnake cs) : ∃ capital first rest,
    pascalChars cs = capital :: rest ∧ IsCapital capital first := by
  cases h with
  | word word =>
    obtain ⟨capital, first, rest, -, raised, isCapital, -⟩ := word.exists_raiseFirst
    exact ⟨capital, first, rest, word.pascalChars_eq.trans raised, isCapital⟩
  | join word _ =>
    obtain ⟨capital, first, rest, -, raised, isCapital, -⟩ := word.exists_raiseFirst
    rw [word.pascalChars_append, raised]
    exact ⟨capital, first, _, rfl, isCapital⟩

theorem wordsOf_lowerFirst (h : IsSnake cs) : wordsOf (lowerFirst (pascalChars cs)) = cs := by
  obtain ⟨capital, first, rest, raised, isCapital⟩ := h.exists_pascalChars
  have words := h.wordsOf_pascalChars
  rw [raised, wordsOf_cons_of_isUpper isCapital.isUpper, isCapital.toLower] at words
  have small := (plain_of_isLowerOrDigit (isLowerOrDigit_of_isLower isCapital.isLower)).1
  rw [raised, lowerFirst, isCapital.lower, List.singleton_append,
    wordsOf_cons_of_not_isUpper small]
  exact List.tail_eq_of_cons_eq words

theorem isIdentifier_pascalChars (h : IsSnake cs) : IsIdentifier (pascalChars cs) := by
  obtain ⟨capital, first, rest, raised, -⟩ := h.exists_pascalChars
  exact ⟨raised ▸ List.cons_ne_nil capital rest, h.isAlphanum_pascalChars⟩

theorem isIdentifier_lowerFirst (h : IsSnake cs) :
    IsIdentifier (lowerFirst (pascalChars cs)) := by
  obtain ⟨capital, first, rest, raised, isCapital⟩ := h.exists_pascalChars
  have plain := h.isAlphanum_pascalChars
  rw [raised] at plain ⊢
  rw [lowerFirst, isCapital.lower, List.singleton_append]
  refine ⟨List.cons_ne_nil first rest, List.forall_mem_cons.mpr ⟨?_, ?_⟩⟩
  · exact (plain_of_isLowerOrDigit (isLowerOrDigit_of_isLower isCapital.isLower)).2.2
  · exact (List.forall_mem_cons.mp plain).2

end IsSnake

namespace IsSnakeCase

theorem pascalCase_inj (h : IsSnakeCase name) (h' : IsSnakeCase other) :
    pascalCase name = pascalCase other ↔ name = other := by
  refine ⟨fun same => ?_, congrArg _⟩
  have words := congrArg wordsOf (String.ofList_inj.mp same)
  rw [h.wordsOf_pascalChars, h'.wordsOf_pascalChars] at words
  exact String.toList_inj.mp (List.tail_eq_of_cons_eq words)

theorem camelCase_inj (h : IsSnakeCase name) (h' : IsSnakeCase other) :
    camelCase name = camelCase other ↔ name = other := by
  refine ⟨fun same => ?_, congrArg _⟩
  have words := congrArg wordsOf (String.ofList_inj.mp same)
  rw [h.wordsOf_lowerFirst, h'.wordsOf_lowerFirst] at words
  exact String.toList_inj.mp words

/-- A digit is not raised, so a word that begins with one would be lost in the word before it. -/
example : camelCase "v_1" = camelCase "v1" := by decide +kernel

end IsSnakeCase

end Naming

def leadingIdentifier (cs : List Char) : String :=
  .ofList (cs.takeWhile Char.isAlphanum)

def attributeIdentifier (text : String) : String :=
  leadingIdentifier text.toList

namespace Language

def declaredLine (language : Language) (cs : List Char) : List Char :=
  ((cs.splitOn '\n').find? fun line => !language.commentMarker.toList.isPrefixOf line).getD []

/-- The identifier of a declaration: it begins the line after the comment, or in Dart ends the
declaration before its semicolon. -/
def declaredIdentifier (language : Language) (text : String) : String :=
  match language with
  | go | typescript => leadingIdentifier (language.declaredLine text.toList)
  | dart => .ofList (text.toList.dropLast.rtakeWhile Char.isAlphanum)

variable {language : Language} {line identifier ys : List Char} {c : Char}

theorem leadingIdentifier_append (named : Naming.IsIdentifier identifier)
    (ended : c.isAlphanum = false) :
    leadingIdentifier (identifier ++ c :: ys) = .ofList identifier := by
  rw [leadingIdentifier, List.takeWhile_append_of_pos named.isAlphanum,
    List.takeWhile_cons_of_neg (by simp [ended]), List.append_nil]

theorem declaredLine_marker_append (whole : '\n' ∉ line) :
    language.declaredLine (language.commentMarker.toList ++ line ++ '\n' :: ys) =
      language.declaredLine ys := by
  have marker : ∀ c ∈ language.commentMarker.toList, (c == '\n') = false :=
    eq_false_of_any (by cases language <;> decide)
  have clean : ∀ c ∈ language.commentMarker.toList ++ line, (c == '\n') = false :=
    List.forall_mem_append.mpr
      ⟨marker, fun c mem => beq_eq_false_iff_ne.mpr fun eq => whole (eq ▸ mem)⟩
  rw [declaredLine, declaredLine, List.splitOn_append_cons_self, List.splitOn_eq_splitOnP,
    List.splitOnP_eq_singleton clean, List.singleton_append, List.find?_cons_of_neg (by simp)]

theorem declaredLine_fieldComment_append {description : Option String} :
    language.declaredLine ((language.fieldComment description).toList ++ ys) =
      language.declaredLine ys := by
  cases description with
  | none => rfl
  | some text =>
    change language.declaredLine
      ((Naming.commentLines language.commentMarker text).toList ++ ys) = _
    by_cases blank : Text.trim text.toList = []
    · rw [commentLines_of_blank blank]
      rfl
    · have whole : ∀ line ∈ text.toList.splitOn '\n', '\n' ∉ Text.trim line :=
        fun line written mem => absurd
          (mem_of_mem_splitOnP written (Text.mem_of_mem_trim mem)).2 (by simp)
      rw [Naming.commentLines, if_neg (by simpa using blank)]
      -- by the lines of the description, of which each is skipped with its marker
      generalize text.toList.splitOn '\n' = written at whole
      induction written with
      | nil => rfl
      | cons line rest ih =>
        obtain ⟨first, others⟩ := List.forall_mem_cons.mp whole
        refine Eq.trans ?_ ((declaredLine_marker_append first).trans (ih others))
        simp [String.join_cons]

theorem leadingIdentifier_declaredLine (named : Naming.IsIdentifier identifier)
    (ended : c.isAlphanum = false) (inline : c ≠ '\n') :
    leadingIdentifier (language.declaredLine (identifier ++ c :: ys)) = .ofList identifier := by
  have clean : ∀ c' ∈ identifier ++ [c], (c' == '\n') = false := by
    refine List.forall_mem_append.mpr ⟨fun c' mem => ?_, by simpa using inline⟩
    refine beq_eq_false_iff_ne.mpr ?_
    rintro rfl
    exact absurd (named.isAlphanum _ mem) (by decide)
  have unmarked (rest : List Char) :
      language.commentMarker.toList.isPrefixOf (identifier ++ rest) = false := by
    obtain ⟨first, others, rfl⟩ := List.exists_cons_of_ne_nil named.nonempty
    have letter : '/' ≠ first := by
      rintro rfl
      exact absurd (named.isAlphanum _ List.mem_cons_self) (by decide)
    cases language <;> simp [commentMarker, List.isPrefixOf_cons_cons, letter]
  have split : (identifier ++ c :: ys).splitOn '\n' =
      (ys.splitOn '\n').modifyHead (identifier ++ [c] ++ ·) := by
    rw [List.append_cons, List.splitOn_eq_splitOnP, splitOnP_append_of_forall clean]
    rfl
  -- the identifier stands in the first line, which goes on with the first piece of the rest
  obtain ⟨piece, pieces, pieces_eq⟩ := List.exists_cons_of_ne_nil (List.splitOn_ne_nil '\n' ys)
  rw [declaredLine, split, pieces_eq, List.modifyHead_cons, List.append_assoc,
    List.find?_cons_of_pos (by simp [unmarked]), Option.getD_some, List.singleton_append,
    leadingIdentifier_append named ended]

end Language

namespace Synthesis

variable {field : Field}

theorem Go.declaredIdentifier_declare (named : Naming.IsIdentifier (fieldName field.name).toList) :
    Language.go.declaredIdentifier (declare field) = fieldName field.name := by
  have declared : (declare field).toList =
      (Language.go.fieldComment field.description).toList ++
        ((fieldName field.name).toList ++ ' ' :: (declaredType field.tag ++ " \x60json:\"" ++
          field.name ++ "," ++ keyOptions field ++ "\"\x60").toList) := by
    simp [declare_eq]
  rw [Language.declaredIdentifier, declared, Language.declaredLine_fieldComment_append,
    Language.leadingIdentifier_declaredLine named (by decide) (by decide), String.ofList_toList]

theorem TypeScript.declaredLine_encoding_append {ys : List Char} :
    Language.typescript.declaredLine ((encoding field).toList ++ ys) =
      Language.typescript.declaredLine ys := by
  rw [encoding]
  cases field.encodesAsString with
  | false => simp
  | true =>
    have whole : '\n' ∉ "@encoding string".toList := by decide
    exact Language.declaredLine_marker_append whole

theorem TypeScript.declaredIdentifier_declare
    (named : Naming.IsIdentifier (fieldName field.name).toList) :
    Language.typescript.declaredIdentifier (declare field) = fieldName field.name := by
  have mark : ∃ c rest, (c = '?' ∨ c = ':') ∧
      ((if field.required then "" else "?") ++ ": " ++ typeName field.tag ++ ";").toList =
        c :: rest := by
    cases field.required with
    | false => exact ⟨'?', _, .inl rfl, by simp only [String.toList_append]; rfl⟩
    | true => exact ⟨':', _, .inr rfl, by simp only [String.toList_append]; rfl⟩
  obtain ⟨c, rest, mark, mark_eq⟩ := mark
  have declared : (declare field).toList =
      (Language.typescript.fieldComment field.description).toList ++
        ((encoding field).toList ++ ((fieldName field.name).toList ++ c :: rest)) := by
    rw [← mark_eq]
    simp [declare_eq, member]
  have ended : c.isAlphanum = false ∧ c ≠ '\n' := by rcases mark with rfl | rfl <;> decide
  rw [Language.declaredIdentifier, declared, Language.declaredLine_fieldComment_append,
    declaredLine_encoding_append, Language.leadingIdentifier_declaredLine named ended.1 ended.2,
    String.ofList_toList]

theorem Dart.declaredIdentifier_declare
    (named : Naming.IsIdentifier (fieldName field.name).toList) :
    Language.dart.declaredIdentifier (declare field) = fieldName field.name := by
  have declared : (declare field).toList =
      (Language.dart.fieldComment field.description ++ jsonKey field ++ "final " ++
        typeName field.tag ++ nullableMark field).toList ++
        ' ' :: (fieldName field.name).toList ++ [';'] := by
    simp [declare_eq, member]
  rw [Language.declaredIdentifier, declared, List.dropLast_concat, List.rtakeWhile,
    List.reverse_append, List.reverse_cons, List.append_assoc,
    List.takeWhile_append_of_pos fun c mem => named.isAlphanum c (List.mem_reverse.mp mem),
    List.singleton_append, List.takeWhile_cons_of_neg (by decide), List.append_nil,
    List.reverse_reverse, String.ofList_toList]

end Synthesis

namespace Target

variable {target : Target} {name : String} {field : Field}

theorem isIdentifier_fieldName (h : Naming.IsSnakeCase name) :
    Naming.IsIdentifier (target.fieldName name).toList := by
  obtain ⟨language, package⟩ := target
  cases language with
  | go => exact String.toList_ofList ▸ h.isIdentifier_pascalChars
  | typescript | dart => exact String.toList_ofList ▸ h.isIdentifier_lowerFirst

theorem fieldName_inj {other : String} (h : Naming.IsSnakeCase name)
    (h' : Naming.IsSnakeCase other) :
    target.fieldName name = target.fieldName other ↔ name = other := by
  obtain ⟨language, package⟩ := target
  cases language with
  | go => exact h.pascalCase_inj h'
  | typescript | dart => exact h.camelCase_inj h'

theorem attributeIdentifier_renderAttribute (h : Naming.IsSnakeCase name) (value : Literal) :
    attributeIdentifier (target.renderAttribute name value) = target.fieldName name := by
  have rendered : ∃ text : String,
      target.renderAttribute name value = target.fieldName name ++ ": " ++ text := by
    obtain ⟨language, package⟩ := target
    cases language <;> exact ⟨_, rfl⟩
  obtain ⟨text, eq⟩ := rendered
  have identified : (target.renderAttribute name value).toList =
      (target.fieldName name).toList ++ ':' :: ' ' :: text.toList := by simp [eq]
  rw [attributeIdentifier, identified,
    Language.leadingIdentifier_append (isIdentifier_fieldName h) (by decide), String.ofList_toList]

theorem declaredIdentifier_declare (h : Naming.IsSnakeCase field.name) :
    target.language.declaredIdentifier (target.declare field) = target.fieldName field.name := by
  have named := @isIdentifier_fieldName target field.name h
  obtain ⟨language, package⟩ := target
  cases language with
  | go => exact Synthesis.Go.declaredIdentifier_declare named
  | typescript => exact Synthesis.TypeScript.declaredIdentifier_declare named
  | dart => exact Synthesis.Dart.declaredIdentifier_declare named

theorem nodup_fieldName {names : List String} (increasing : names.Pairwise (· < ·))
    (snake : ∀ name ∈ names, Naming.IsSnakeCase name) : (names.map target.fieldName).Nodup := by
  have distinct : names.Nodup := increasing.imp String.ne_of_lt
  refine List.Nodup.map_on (fun name mem other mem' same => ?_) distinct
  exact (fieldName_inj (snake name mem) (snake other mem')).mp same

end Target

namespace Service

variable {service : Service} {target : Target} {type name : String} {inline : Option Node}
  {parent shape : Node} {literal : Literal}

theorem declaredIdentifiers_eq {fields : List Field} (found : service.typeSchema type = .ok parent)
    (snake : ∀ name ∈ parent.properties.keys, Naming.IsSnakeCase name)
    (h : (service.fields type).outcome = .ok fields) :
    fields.map (fun field => target.language.declaredIdentifier (target.declare field)) =
      parent.properties.keys.map target.fieldName := by
  have names : fields.map (·.name) = parent.properties.keys := by
    have named := Report.fst_eq_of_forall₂ (((isBatch_fields found).results fields).mp h)
    rwa [List.map_map] at named
  rw [← names, List.map_map]
  refine List.map_congr_left fun field mem => Target.declaredIdentifier_declare (snake _ ?_)
  exact names ▸ List.mem_map_of_mem mem

theorem attributeIdentifiers_eq {fields : List (String × Literal)}
    (snake : ∀ part ∈ fields, Naming.IsSnakeCase part.1) :
    fields.map (fun part => attributeIdentifier (target.renderAttribute part.1 part.2)) =
      (fields.map (·.1)).map target.fieldName := by
  rw [List.map_map]
  refine List.map_congr_left fun part mem => ?_
  exact Target.attributeIdentifier_renderAttribute (snake part mem) part.2

theorem Within.names {attributes : List (String × Value)} {fields : List (String × Literal)}
    (within : service.Within none literal inline name fields)
    (h : (service.messageLiteral type attributes).outcome = .ok literal)
    (found : service.messageNode name inline = .ok shape) :
    (fields.map (·.1)).Pairwise (· < ·) ∧ ∀ part ∈ fields, part.1 ∈ shape.properties.keys := by
  obtain ⟨members, carries⟩ := within.carries (messageLiteral_carries h)
  cases carries with
  | message kept found' sub increasing properties resolved carries =>
    obtain rfl := Except.ok.inj (found.symm.trans found')
    refine ⟨List.pairwise_map.mpr increasing, fun part mem => ?_⟩
    obtain ⟨part, kept_mem, rfl⟩ := List.mem_map.mp mem
    exact Dict.mem_keys_of_get? (properties part kept_mem)

/-- Different names in snake case have different identifiers. So if all properties of a type have
such names, no identifier occurs twice among its declarations in a language, and if all properties
of the node of a message have such names, none occurs twice among the attributes of its literals. -/
theorem nodup_identifiers :
    (∀ name other, Naming.IsSnakeCase name → Naming.IsSnakeCase other → name ≠ other →
      Naming.camelCase name ≠ Naming.camelCase other ∧
      Naming.pascalCase name ≠ Naming.pascalCase other) ∧
    ∀ (service : Service) (target : Target) (type : String),
      (∀ parent fields, service.typeSchema type = .ok parent →
        (∀ name ∈ parent.properties.keys, Naming.IsSnakeCase name) →
        (service.fields type).outcome = .ok fields →
        (fields.map fun field =>
          target.language.declaredIdentifier (target.declare field)).Nodup) ∧
      ∀ attributes literal inline name fields shape,
        (service.messageLiteral type attributes).outcome = .ok literal →
        service.Within none literal inline name fields →
        service.messageNode name inline = .ok shape →
        (∀ name ∈ shape.properties.keys, Naming.IsSnakeCase name) →
        (fields.map fun part =>
          attributeIdentifier (target.renderAttribute part.1 part.2)).Nodup := by
  refine ⟨fun name other h h' different => ⟨?_, ?_⟩, fun service target type => ⟨?_, ?_⟩⟩
  · exact fun same => different ((h.camelCase_inj h').mp same)
  · exact fun same => different ((h.pascalCase_inj h').mp same)
  · intro parent fields found snake h
    rw [declaredIdentifiers_eq found snake h]
    exact Target.nodup_fieldName parent.properties.pairwise_keys snake
  · intro attributes literal inline name fields shape h within found snake
    obtain ⟨increasing, properties⟩ := within.names h found
    have snake' : ∀ part ∈ fields, Naming.IsSnakeCase part.1 := fun part mem =>
      snake part.1 (properties part mem)
    rw [attributeIdentifiers_eq snake']
    refine Target.nodup_fieldName increasing fun name mem => ?_
    obtain ⟨part, part_mem, rfl⟩ := List.mem_map.mp mem
    exact snake' part part_mem

def contactNode : Node where
  kind := some "object"
  members := [
    ("e_mail", { kind := some "string" }),
    ("email", { kind := some "string" }),
    ("next", { reference := some "#/components/schemas/Contact" })]

def contacts : Service where
  name := "contacts"
  document := { schemas := .ofList [("Contact", contactNode)] }
  descriptors := {
    package := "contacts"
    pool := {
      messages := [
        { fullName := "contacts.Contact"
          fields := [
            ⟨"e_mail", "eMail", 1, .scalar .string, false, none, none⟩,
            ⟨"email", "email", 2, .scalar .string, false, none, none⟩,
            ⟨"next", "next", 3, .message "contacts.Contact", false, none, none⟩]
          isMapEntry := false }] } }
  dynamicTypes := []

def contactFields : List Field := [
  { name := "e_mail", tag := .scalar .string },
  { name := "email", tag := .scalar .string },
  { name := "next", tag := .message "Contact" }]

def nextFields : List (String × Literal) :=
  [("e_mail", .string "a"), ("email", .string "b")]

def contactAttributes : List (String × Value) :=
  [("next", .object [("e_mail", .string "a"), ("email", .string "b")])]

theorem contacts_nodup_identifiers :
    Naming.camelCase "e_mail" ≠ Naming.camelCase "email" ∧
      contacts.typeSchema "Contact" = .ok contactNode ∧
      (contacts.fields "Contact").outcome = .ok contactFields ∧
      (∀ target : Target, (contactFields.map fun field =>
        target.language.declaredIdentifier (target.declare field)).Nodup) ∧
      (contacts.messageLiteral "Contact" contactAttributes).outcome =
        .ok (.message "Contact" [("next", .message "Contact" nextFields)]) ∧
      ∀ target : Target, (nextFields.map fun part =>
        attributeIdentifier (target.renderAttribute part.1 part.2)).Nodup := by
  have parted : Naming.IsSnakeCase "e_mail" :=
    @Naming.IsSnake.join ['e'] "mail".toList (.intro rfl rfl) (.word (.intro rfl (by decide)))
  have whole : Naming.IsSnakeCase "email" := .word (.intro rfl (by decide))
  have next : Naming.IsSnakeCase "next" := .word (.intro rfl (by decide))
  have snake : ∀ name ∈ contactNode.properties.keys, Naming.IsSnakeCase name := by
    change ∀ name ∈ ["e_mail", "email", "next"], Naming.IsSnakeCase name
    simp [parted, whole, next]
  have found : contacts.typeSchema "Contact" = .ok contactNode := rfl
  have fields : (contacts.fields "Contact").outcome = .ok contactFields := rfl
  have literal : (contacts.messageLiteral "Contact" contactAttributes).outcome =
    .ok (.message "Contact" [("next", .message "Contact" nextFields)]) := rfl
  have inner : contacts.messageNode "Contact" (contacts.memberNode "Contact" none "next") =
    .ok contactNode := rfl
  obtain ⟨names, types⟩ := nodup_identifiers
  refine ⟨(names _ _ parted whole (by decide)).1, found, fields, fun target => ?_, literal,
    fun target => ?_⟩
  · exact (types contacts target "Contact").1 _ _ found snake fields
  · exact (types contacts target "Contact").2 _ _ _ _ _ _ literal (.field (.head _) .here) inner
      snake

end Service

end Typesmith
