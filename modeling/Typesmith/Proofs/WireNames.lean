import Typesmith.Proofs.Encoding
import Typesmith.Proofs.Quoting
import Typesmith.Proofs.Replace

/-! # Wire names in Dart

A declaration without a comment tells the wire name of its field. If its annotation has an argument
for the name, this argument is the quoted name; if not, the declared identifier is the name itself.
-/

namespace Typesmith

def Text.unquoteSingle? : List Char → Option String
  | '\'' :: rest =>
    if rest.getLast? = some '\'' then (unescapeSingle? rest.dropLast).map .ofList else none
  | _ => none

theorem Text.unquoteSingle?_quoteSingle {s : String} :
    unquoteSingle? (quoteSingle s).toList = some s := by
  rw [quoteSingle, String.toList_ofList, List.cons_append, unquoteSingle?, List.getLast?_concat,
    if_pos rfl, List.dropLast_concat, unescapeSingle?_flatMap, Option.map_some,
    String.ofList_toList]

namespace Synthesis.Dart

def declaredType (field : Field) : String :=
  typeName field.tag ++ nullableMark field

/-- What an annotation on the first line has between its parentheses, and the lines after it. -/
def annotated? (declaration : String) : Option (List Char × String) :=
  (Text.afterPrefix? "@JsonKey(" declaration).map fun rest =>
    ((rest.toList.takeWhile (· != '\n')).dropLast,
      .ofList (rest.toList.dropWhile (· != '\n')).tail)

/-- The value of the argument for the name in an annotation. -/
def nameValue? (inside : List Char) : Option (List Char) :=
  (arguments inside).findSome? ("name: ".toList.isPrefixOf? ·)

def annotatedName? (declaration : String) : Option (List Char) :=
  (annotated? declaration).bind fun (inside, _) => nameValue? inside

/-- The identifier that is declared with a type, after an annotation if there is one. -/
def declaredName? (type declaration : String) : Option String :=
  let member := ((annotated? declaration).map (·.2)).getD declaration
  (Text.afterPrefix? ("final " ++ type ++ " ") member).bind (Text.beforeSuffix? ";")

def wireName? (type declaration : String) : Option String :=
  match annotatedName? declaration with
  | some quoted => Text.unquoteSingle? quoted
  | none => declaredName? type declaration

variable {field : Field} {inside rest : String}

theorem annotated?_of_annotation (clean : ∀ c ∈ inside.toList, Language.dart.endsLine c = false) :
    annotated? ("@JsonKey(" ++ inside ++ ")\n" ++ rest) = some (inside.toList, rest) := by
  have line : ∀ c ∈ inside.toList ++ [')'], (c != '\n') = true := by
    refine List.forall_mem_append.mpr ⟨fun c mem => ?_, by simp⟩
    have solid := clean c mem
    rw [Language.endsLine, Bool.or_eq_false_iff] at solid
    simp [bne, solid.1]
  have found : Text.afterPrefix? "@JsonKey(" ("@JsonKey(" ++ inside ++ ")\n" ++ rest) =
      some (inside ++ ")\n" ++ rest) :=
    Text.afterPrefix?_eq_some_iff.mpr (by simp only [String.append_assoc])
  have text : (inside ++ ")\n" ++ rest).toList =
      (inside.toList ++ [')']) ++ '\n' :: rest.toList := by simp
  rw [annotated?, found, Option.map_some, text, List.takeWhile_append_of_pos line,
    List.dropWhile_append_of_pos line, List.takeWhile_cons_of_neg (by decide),
    List.dropWhile_cons_of_neg (by decide), List.append_nil, List.dropLast_concat, List.tail_cons,
    String.ofList_toList]

theorem annotated?_final : annotated? ("final " ++ rest) = none := by
  simp [annotated?, Text.afterPrefix?, List.isPrefixOf?]

theorem nameValue?_converters : nameValue? converters.toList = none := by
  decide +kernel

theorem nameValue?_of_arguments {name : String} {others : List (List Char)}
    (h : arguments inside.toList = (nameArgument name).toList :: others) :
    nameValue? inside.toList = some (Text.quoteSingle name).toList := by
  have value : "name: ".toList.isPrefixOf? (nameArgument name).toList =
      some (Text.quoteSingle name).toList :=
    List.isPrefixOf?_eq_some_iff_append_eq.mpr String.toList_append.symm
  rw [nameValue?, h, List.findSome?_cons, value]

section

variable (plain : field.description = none)
include plain

theorem declare_of_plain :
    declare field = jsonKey field ++ ("final " ++ (member field ++ ";")) := by
  have silent : Language.dart.fieldComment none = "" := rfl
  rw [declare_eq, plain, silent, String.empty_append, String.append_assoc]

theorem annotated?_declare (eq : jsonKey field = "@JsonKey(" ++ inside ++ ")\n") :
    annotated? (declare field) = some (inside.toList, "final " ++ (member field ++ ";")) := by
  obtain ⟨empty, -⟩ | ⟨inside', eq', clean, -⟩ := jsonKey_cases field
  · simp [empty] at eq
  · obtain rfl : inside' = inside := by simpa [eq] using eq'.symm
    rw [declare_of_plain plain, eq, annotated?_of_annotation clean]

/-- The identifier is what is declared with the type, whether there is an annotation or not. -/
theorem declaredName?_declare :
    declaredName? (declaredType field) (declare field) = some (fieldName field.name) := by
  have rest : ((annotated? (declare field)).map (·.2)).getD (declare field) =
      "final " ++ (member field ++ ";") := by
    obtain ⟨empty, -⟩ | ⟨inside, eq, -, -⟩ := jsonKey_cases field
    · rw [declare_of_plain plain, empty, String.empty_append, annotated?_final]
      rfl
    · rw [annotated?_declare plain eq]
      rfl
  have typed : Text.afterPrefix? ("final " ++ declaredType field ++ " ")
      ("final " ++ (member field ++ ";")) = some (fieldName field.name ++ ";") :=
    Text.afterPrefix?_eq_some_iff.mpr (by simp only [declaredType, member, String.append_assoc])
  rw [declaredName?, rest, typed, Option.bind_some, Text.beforeSuffix?_eq_some_iff]

theorem annotatedName?_declare : annotatedName? (declare field) =
    if fieldName field.name = field.name then none
    else some (Text.quoteSingle field.name).toList := by
  have name_eq : "name: " ++ Text.quoteSingle field.name = nameArgument field.name := rfl
  have read {inside : String} (eq : jsonKey field = "@JsonKey(" ++ inside ++ ")\n") :
      annotatedName? (declare field) = nameValue? inside.toList := by
    rw [annotatedName?, annotated?_declare plain eq, Option.bind_some]
  -- An annotation has an argument for the name, for the converters, for both or is left out.
  by_cases same : fieldName field.name = field.name <;> cases encodes : field.encodesAsString
  · have none_left : jsonKey field = "" := by simp [jsonKey, keyArguments, same, encodes]
    rw [if_pos same, annotatedName?, declare_of_plain plain, none_left, String.empty_append,
      annotated?_final, Option.bind_none]
  · rw [if_pos same, @read converters, nameValue?_converters]
    simp [jsonKey, keyArguments, same, encodes]
  · rw [if_neg same, @read (nameArgument field.name),
      nameValue?_of_arguments arguments_nameArgument]
    simp [jsonKey, keyArguments, same, encodes, name_eq]
  · rw [if_neg same, @read (nameArgument field.name ++ ", " ++ converters),
      nameValue?_of_arguments arguments_nameArgument_append]
    simp [jsonKey, keyArguments, same, encodes, name_eq, String.intercalate_cons_cons]

theorem wireName?_declare : wireName? (declaredType field) (declare field) = some field.name := by
  rw [wireName?, annotatedName?_declare plain]
  by_cases same : fieldName field.name = field.name
  · rw [if_pos same]
    exact (declaredName?_declare plain).trans (congrArg some same)
  · rw [if_neg same]
    exact Text.unquoteSingle?_quoteSingle

end

/-- A declaration without a comment determines the wire name of its field, by the type that it is
declared with: the value of the argument for the name is the quoted name, and without such an
argument the declared identifier is the name. -/
theorem declare_determines_name (plain : field.description = none) :
    (∀ quoted, annotatedName? (declare field) = some quoted →
      Text.unquoteSingle? quoted = some field.name) ∧
    (annotatedName? (declare field) = none →
      declaredName? (declaredType field) (declare field) = some field.name) ∧
    ∀ name, declare { field with name } = declare field → name = field.name := by
  have told := wireName?_declare plain
  refine ⟨fun quoted annotated => ?_, fun unannotated => ?_, fun name same => ?_⟩
  · rwa [wireName?, annotated] at told
  · rwa [wireName?, unannotated] at told
  · have other : wireName? (declaredType field) (declare { field with name }) = some name :=
      @wireName?_declare { field with name } plain
    rw [same, told] at other
    exact (Option.some.inj other).symm

def ownerId : Field :=
  { name := "owner's_id", tag := .scalar .int64, format := some "int64" }

theorem ownerId_wire_name :
    ownerId.description = none ∧
      annotatedName? (declare ownerId) = some "'owner\\'s_id'".toList ∧
      Text.unquoteSingle? "'owner\\'s_id'".toList = some "owner's_id" ∧
      annotatedName? (declare { ownerId with name := "owner" }) = none ∧
      declaredName? "int?" (declare { ownerId with name := "owner" }) = some "owner" ∧
      declare { ownerId with name := "owner'sId" } ≠ declare ownerId := by
  have annotated : annotatedName? (declare ownerId) = some "'owner\\'s_id'".toList :=
    (annotatedName?_declare rfl).trans (by decide +kernel)
  have unannotated : annotatedName? (declare { ownerId with name := "owner" }) = none :=
    (annotatedName?_declare rfl).trans (by decide +kernel)
  obtain ⟨unquoted, -, differ⟩ := @declare_determines_name ownerId rfl
  obtain ⟨-, declared, -⟩ := @declare_determines_name { ownerId with name := "owner" } rfl
  refine ⟨rfl, annotated, unquoted _ annotated, unannotated, declared unannotated, fun same => ?_⟩
  exact absurd (differ _ same) (by decide)

end Synthesis.Dart

end Typesmith
