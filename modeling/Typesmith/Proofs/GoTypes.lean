import Typesmith.Proofs.Carries
import Typesmith.Proofs.RawJson

/-! # Types of literals in Go

A composite literal in Go begins with its type. That is the type of the tag that its place resolves
to, at every depth, and the literal is a pointer exactly where the declaration of a field has one.
-/

namespace Typesmith

open Json (Value)
open OpenApi (Node)

namespace Tag

def rename (f : String → String) : Tag → Tag
  | .array element => .array (element.rename f)
  | .map key value => .map (key.rename f) (value.rename f)
  | .message name => .message (f name)
  | .enum name => .enum (f name)
  | .scalar kind => .scalar kind
  | .json => .json
  | .any => .any

def isComposite : Tag → Bool
  | .array _ | .map _ _ | .message _ | .json => true
  | .scalar _ | .enum _ | .any => false

end Tag

namespace Synthesis.Go

/-- A literal is the value of a field, or a part of a list or a map. -/
inductive Place where
  | field | part
deriving DecidableEq

def Place.mark (pointer : String) : Place → Tag → String
  | .field, .message _ => pointer
  | _, _ => ""

/-- How a composite literal begins: with the type of its tag, in which the package qualifies all
names. -/
def opening (package : String) (place : Place) (tag : Tag) : String :=
  place.mark "&" tag ++ typeName (tag.rename (package ++ "." ++ ·)) ++ "\x7b"

variable {package : String} {place : Place}

theorem typeExpr_eq_typeName (qualify : String → String) (tag : Tag) :
    typeExpr qualify tag = typeName (tag.rename qualify) := by
  induction tag with
  | array element ih => simp only [typeExpr, Tag.rename, typeName, ih]
  | map key value ihk ihv => simp only [typeExpr, Tag.rename, typeName, ihk, ihv]
  | _ => rfl

theorem declaredType_eq (tag : Tag) :
    declaredType tag = Place.field.mark "*" tag ++ typeName tag := by
  cases tag <;> simp [declaredType, Place.mark, typeName, typeExpr]

theorem renderItems_eq {items : List Literal} :
    renderItems package items = items.map (render package false) := by
  induction items with
  | nil => rfl
  | cons item rest ih => rw [renderItems, List.map_cons, ih]

theorem renderEntries_eq {entries : List (Literal × Literal)} :
    renderEntries package entries = entries.map fun entry =>
      render package false entry.1 ++ ": " ++ render package false entry.2 := by
  induction entries with
  | nil => rfl
  | cons entry rest ih => rw [renderEntries, List.map_cons, ih]

theorem renderFields_eq {fields : List (String × Literal)} :
    renderFields package fields = fields.map fun field =>
      fieldName field.1 ++ ": " ++ render package true field.2 := by
  induction fields with
  | nil => rfl
  | cons field rest ih => rw [renderFields, List.map_cons, ih]

theorem opening_eq (tag : Tag) :
    opening package place tag = place.mark "&" tag ++ qualifiedType package tag ++ "\x7b" := by
  rw [opening, qualifiedType, typeExpr_eq_typeName]

theorem opening_of_not_message {tag : Tag} (h : ∀ name, tag ≠ .message name) :
    opening package place tag = qualifiedType package tag ++ "\x7b" := by
  have unmarked : place.mark "&" tag = "" := by
    cases place with
    | part => rfl
    | field =>
      cases tag with
      | message name => exact absurd rfl (h name)
      | _ => rfl
  rw [opening_eq, unmarked, String.empty_append]

theorem render_list (place : Place) {pointer : Bool} {element : Tag} {items : List Literal} :
    render package pointer (.list element items) =
      opening package place (.array element) ++
        block "" (items.map (render package false)) "\x7d" := by
  rw [opening_of_not_message (by simp), render, block_eq, renderItems_eq]
  rfl

theorem render_map (place : Place) {pointer : Bool} {key value : Tag}
    {entries : List (Literal × Literal)} :
    render package pointer (.map key value entries) =
      opening package place (.map key value) ++ block "" (entries.map fun entry =>
        render package false entry.1 ++ ": " ++ render package false entry.2) "\x7d" := by
  rw [opening_of_not_message (by simp), render, block_eq, renderEntries_eq]
  rfl

theorem render_message (place : Place) {name : String} {fields : List (String × Literal)} :
    render package (place = .field) (.message name fields) =
      opening package place (.message name) ++ block "" (fields.map fun field =>
        fieldName field.1 ++ ": " ++ render package true field.2) "\x7d" := by
  have marked : (if decide (place = .field) then "&" else "") = place.mark "&" (.message name) := by
    cases place <;> rfl
  have type : qualifiedType package (.message name) = package ++ "." ++ name := rfl
  rw [opening_eq, render, block_eq, renderFields_eq, marked, type]
  simp only [String.append_assoc]

theorem render_json (place : Place) {pointer : Bool} {members : List (String × Value)} :
    render package pointer (.json (.object members)) =
      opening package place .json ++ block "" ((byName members).map fun (name, value) =>
        Text.quoteDouble name ++ ": " ++ renderJson jsonStyle value) "\x7d" := by
  rw [opening_of_not_message (by simp), render, renderJson, block_eq, renderJsonMembers_eq,
    byName_map, List.map_map]
  rfl

end Synthesis.Go

namespace Service

open Synthesis

/-- The text that a literal has in Go where it is read by a tag and a node. The text of a composite
literal goes on from its opening with the texts of its parts. -/
inductive GoText (service : Service) (package : String) :
    Go.Place → Tag → Option Node → Literal → String → Prop

  | leaf {place tag node literal} : tag.isComposite = false →
      GoText service package place tag node literal (Go.render package false literal)

  | list {place element node items} (text : Literal → String) :
      (∀ item ∈ items,
        GoText service package .part element (service.itemNode node) item (text item)) →
      GoText service package place (.array element) node (.list element items)
        (Go.opening package place (.array element) ++ block "" (items.map text) "\x7d")

  | map {place key value node entries} (text : Literal → String) :
      (∀ entry ∈ entries, GoText service package .part key none entry.1 (text entry.1)) →
      (∀ entry ∈ entries, GoText service package .part value none entry.2 (text entry.2)) →
      GoText service package place (.map key value) node (.map key value entries)
        (Go.opening package place (.map key value) ++
          block "" (entries.map fun entry => text entry.1 ++ ": " ++ text entry.2) "\x7d")

  | message {place name node inner} (fields : List Attribute) (text : Literal → String) :
      service.messageNode name node = .ok inner →
      (∀ part ∈ fields, inner.properties.get? part.name = some part.property) →
      (∀ part ∈ fields, (service.resolveNode name part.name part.property
        (inner.isRequired part.name)).outcome = .ok part.field) →
      (∀ part ∈ fields, GoText service package .field part.field.tag (some part.property)
        part.literal (text part.literal)) →
      GoText service package place (.message name) node
        (.message name (fields.map fun part => (part.name, part.literal)))
        (Go.opening package place (.message name) ++ block "" (fields.map fun part =>
          Go.fieldName part.name ++ ": " ++ text part.literal) "\x7d")

  | json {place node members} :
      GoText service package place .json node (.json (.object members))
        (Go.opening package place .json ++ block "" ((byName members).map fun (name, value) =>
          Text.quoteDouble name ++ ": " ++ renderJson Go.jsonStyle value) "\x7d")

variable {service : Service} {package : String} {tag : Tag} {node : Option Node} {value : Value}
  {literal : Literal}

theorem goText_of_carries (h : service.Carries tag node value literal) (place : Go.Place) :
    service.GoText package place tag node literal
      (Go.render package (place = .field) literal) := by
  induction h generalizing place with
  | text => exact .leaf rfl
  | bool => exact .leaf rfl
  | integer => exact .leaf rfl
  | number => exact .leaf rfl
  | enum => exact .leaf rfl
  | any => exact .leaf rfl
  | json =>
    rw [Go.render_json place]
    exact .json
  | list kept sub carries ih =>
    rw [Go.render_list place]
    refine .list (Go.render package false) fun item mem => ?_
    obtain ⟨part, kept_mem, rfl⟩ := List.mem_map.mp mem
    exact ih part kept_mem .part
  | map kept sub keys carries ihk ihv =>
    rw [Go.render_map place]
    refine .map (Go.render package false) (fun entry mem => ?_) fun entry mem => ?_
    all_goals obtain ⟨part, kept_mem, rfl⟩ := List.mem_map.mp mem
    · exact ihk part kept_mem .part
    · exact ihv part kept_mem .part
  | message kept found sub increasing properties resolved carries ih =>
    rw [Go.render_message place, List.map_map]
    exact .message kept (Go.render package true) found properties resolved fun part mem =>
      ih part mem .field

/-- In Go an example begins, at every depth, with the type that its place resolves to, and points to
a message exactly where the declaration of a field does. -/
theorem renderLiteral_types {type : String} {attributes : List (String × Value)}
    (h : (service.messageLiteral type attributes).outcome = .ok literal) (package : String) :
    service.GoText package .field (.message type) none literal
        ((⟨.go, package⟩ : Target).renderLiteral literal) ∧
      ∀ field, ∃ comment jsonTag, Go.declare field = comment ++ Go.fieldName field.name ++ " " ++
        (Go.Place.field.mark "*" field.tag ++ Go.typeName field.tag) ++ jsonTag := by
  refine ⟨goText_of_carries (messageLiteral_carries h) .field, fun field => ?_⟩
  refine ⟨(field.description.map (Naming.commentLines Language.go.commentMarker)).getD "",
    " \x60json:\"" ++ field.name ++ "," ++
      (if field.encodesAsString then "string,omitempty" else "omitempty") ++ "\"\x60", ?_⟩
  simp only [Go.declare, Go.declaredType_eq, String.append_assoc]

def shelves : Service where
  name := "shelves"
  document := {
    schemas := .ofList [
      ("Book", { kind := some "object", members := [("title", { kind := some "string" })] }),
      ("Shelf", {
        kind := some "object"
        members := [
          ("books", {
            kind := some "array"
            items := some { reference := some "#/components/schemas/Book" } }),
          ("byTitle", { kind := some "object" }),
          ("first", { reference := some "#/components/schemas/Book" }),
          ("notes", { kind := some "object" })] })] }
  descriptors := {
    package := "shelves"
    pool := {
      messages := [
        { fullName := "shelves.Book"
          fields := [⟨"title", "title", 1, .scalar .string, false, none, none⟩]
          isMapEntry := false },
        { fullName := "shelves.Shelf"
          fields := [
            ⟨"books", "books", 1, .message "shelves.Book", true, none, none⟩,
            ⟨"by_title", "byTitle", 2, .message "shelves.Shelf.ByTitleEntry", true,
              some (.scalar .string, .message "shelves.Book"), none⟩,
            ⟨"first", "first", 3, .message "shelves.Book", false, none, none⟩,
            ⟨"notes", "notes", 4, .message "shelves.Notes", false, none, none⟩]
          isMapEntry := false },
        { fullName := "shelves.Shelf.ByTitleEntry"
          fields := [
            ⟨"key", "key", 1, .scalar .string, false, none, none⟩,
            ⟨"value", "value", 2, .message "shelves.Book", false, none, none⟩]
          isMapEntry := true },
        { fullName := "shelves.Notes", fields := [], isMapEntry := false }] } }
  dynamicTypes := ["shelves.Notes"]

def shelfAttributes : List (String × Value) := [
  ("first", .object [("title", .string "A")]),
  ("books", .array [.object [("title", .string "A")], .object []]),
  ("byTitle", .object [("B", .object [("title", .string "B")])]),
  ("notes", .object [("dusty", .bool true)])]

def shelfLiteral : Literal :=
  .message "Shelf" [
    ("books", .list (.message "Book") [.message "Book" [("title", .string "A")],
      .message "Book" []]),
    ("byTitle", .map (.scalar .string) (.message "Book") [
      (.string "B", .message "Book" [("title", .string "B")])]),
    ("first", .message "Book" [("title", .string "A")]),
    ("notes", .json (.object [("dusty", .bool true)]))]

def shelfText : String :=
  "&api.Shelf\x7b\n" ++
    "Books: []api.Book\x7b\n" ++
      "api.Book\x7b\nTitle: \"A\",\n\x7d,\n" ++ "api.Book\x7b\x7d,\n\x7d,\n" ++
    "ByTitle: map[string]api.Book\x7b\n" ++
      "\"B\": api.Book\x7b\nTitle: \"B\",\n\x7d,\n\x7d,\n" ++
    "First: &api.Book\x7b\nTitle: \"A\",\n\x7d,\n" ++
    "Notes: map[string]interface\x7b\x7d\x7b\n\"dusty\": true,\n\x7d,\n\x7d"

set_option maxRecDepth 8000 in
theorem shelves_types :
    (shelves.messageLiteral "Shelf" shelfAttributes).outcome = .ok shelfLiteral ∧
      shelves.GoText "api" .field (.message "Shelf") none shelfLiteral shelfText := by
  have h : (shelves.messageLiteral "Shelf" shelfAttributes).outcome = .ok shelfLiteral := rfl
  have text : (⟨.go, "api"⟩ : Target).renderLiteral shelfLiteral = shelfText := by decide +kernel
  obtain ⟨types, -⟩ := renderLiteral_types h "api"
  rw [text] at types
  exact ⟨h, types⟩

end Service

end Typesmith
