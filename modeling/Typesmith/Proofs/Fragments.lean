import Typesmith.Proofs.GoTypes
import Typesmith.Generator

/-! # Fragments of examples

An example is rendered as a whole and by attributes. The whole is laid out by the blocks of each
language, from inside; the attributes are laid out one by one, and joined. Both ways give one text.
-/

namespace Typesmith

open Json (Value)

variable {opening closing item : String} {items : List String}

theorem joinAttributes_cons_cons {next : String} :
    joinAttributes (item :: next :: items) = item ++ ",\n" ++ joinAttributes (next :: items) := by
  have separated : ",\n" = "," ++ "\n" := rfl
  simp only [joinAttributes, List.map_cons, String.intercalate_cons_cons, separated,
    String.append_assoc]

theorem blockRest_eq_joinAttributes :
    Synthesis.blockRest (item :: items) closing =
      joinAttributes (item :: items) ++ "\n" ++ closing := by
  induction items generalizing item with
  | nil =>
    have last : joinAttributes [item] = item ++ "," := String.intercalate_singleton
    have separated : ",\n" = "," ++ "\n" := rfl
    rw [Synthesis.blockRest_cons, Synthesis.blockRest_nil, last, separated]
    simp only [String.append_assoc]
  | cons next items ih =>
    rw [Synthesis.blockRest_cons, ih, joinAttributes_cons_cons]
    simp only [String.append_assoc]

/-- A block without items has nothing between its delimiters; any other has the joined items on
lines of their own. -/
theorem block_eq_joinAttributes :
    block opening items closing =
      if items = [] then opening ++ closing
      else opening ++ "\n" ++ joinAttributes items ++ "\n" ++ closing := by
  cases items with
  | nil => rw [Synthesis.block_nil, if_pos rfl]
  | cons item items =>
    rw [Synthesis.block_cons, blockRest_eq_joinAttributes, if_neg (List.cons_ne_nil item items)]
    simp only [String.append_assoc]

namespace Synthesis

variable {fields : List (String × Literal)}

theorem TypeScript.renderFields_eq :
    renderFields fields = fields.map fun field => renderAttribute field.1 field.2 := by
  induction fields with
  | nil => rfl
  | cons field rest ih => rw [renderFields, List.map_cons, ih, renderAttribute]

theorem Dart.renderFields_eq :
    renderFields fields = fields.map fun field => renderAttribute field.1 field.2 := by
  induction fields with
  | nil => rfl
  | cons field rest ih => rw [renderFields, List.map_cons, ih, renderAttribute]

end Synthesis

namespace Target

variable (target : Target)

/-- What a message of a type begins with, where it is not part of another literal. -/
def messageOpening (type : String) : String :=
  match target.language with
  | .go => "&" ++ target.package ++ "." ++ type ++ "\x7b"
  | .typescript => "\x7b"
  | .dart => type ++ "("

def messageClosing : String :=
  match target.language with
  | .go | .typescript => "\x7d"
  | .dart => ")"

theorem renderLiteral_message {type : String} {fields : List (String × Literal)} :
    target.renderLiteral (.message type fields) =
      block (target.messageOpening type) (target.renderFragments fields) target.messageClosing := by
  obtain ⟨language, package⟩ := target
  cases language with
  | go =>
    change Synthesis.Go.render package true (.message type fields) = _
    rw [Synthesis.Go.render, Synthesis.Go.renderFields_eq]
    rfl
  | typescript =>
    change Synthesis.TypeScript.render (.message type fields) = _
    rw [Synthesis.TypeScript.render, Synthesis.TypeScript.renderFields_eq]
    rfl
  | dart =>
    change Synthesis.Dart.render (.message type fields) = _
    rw [Synthesis.Dart.render, Synthesis.Dart.renderFields_eq]
    rfl

/-- What a language makes of the fields of an example. -/
def rendering (type : String) (fields : List (String × Literal)) : Rendered where
  typeName := type
  fragments := target.renderFragments fields
  body := joinAttributes (target.renderFragments fields)
  literal := target.renderLiteral (.message type fields)

theorem rendering_literal {type : String} {fields : List (String × Literal)} :
    (target.rendering type fields).literal =
      if (target.rendering type fields).fragments = [] then
        target.messageOpening type ++ target.messageClosing
      else target.messageOpening type ++ "\n" ++ (target.rendering type fields).body ++ "\n" ++
        target.messageClosing := by
  rw [rendering, renderLiteral_message, block_eq_joinAttributes]

end Target

namespace Service

variable {service : Service} {target : Target} {type : String} {attributes : List (String × Value)}
  {rendered : Rendered}

theorem outcome_render_eq_ok_iff :
    (target.render service type attributes).outcome = .ok rendered ↔ ∃ fields,
      (service.messageLiteral type attributes).outcome = .ok (.message type fields) ∧
        target.rendering type fields = rendered := by
  rw [Target.render, messageLiteral, Report.outcome_bind_eq_ok_iff]
  constructor
  · rintro ⟨fields, found, result⟩
    refine ⟨fields, ?_, Except.ok.inj result⟩
    exact Report.outcome_bind_eq_ok_iff.mpr ⟨fields, found, rfl⟩
  · rintro ⟨fields, found, rfl⟩
    obtain ⟨others, found, same⟩ := Report.outcome_bind_eq_ok_iff.mp found
    cases same
    exact ⟨fields, found, rfl⟩

/-- The parts of a rendered example fit together: the literal is the body between the delimiters of
its type, and each field has its fragment, in every language. -/
theorem render_fits (h : (target.render service type attributes).outcome = .ok rendered) :
    (rendered.literal = if rendered.fragments = [] then
        target.messageOpening type ++ target.messageClosing
      else target.messageOpening type ++ "\n" ++ rendered.body ++ "\n" ++ target.messageClosing) ∧
    ∃ fields, (service.messageLiteral type attributes).outcome = .ok (.message type fields) ∧
      rendered.literal = target.renderLiteral (.message type fields) ∧
      rendered.fragments = fields.map (fun (name, value) => target.renderAttribute name value) ∧
      ∀ other : Target, ∃ rendered', (other.render service type attributes).outcome =
        .ok rendered' ∧ rendered'.fragments.length = rendered.fragments.length := by
  obtain ⟨fields, found, rfl⟩ := outcome_render_eq_ok_iff.mp h
  refine ⟨target.rendering_literal, fields, found, rfl, rfl, ?_⟩
  intro other
  refine ⟨other.rendering type fields, outcome_render_eq_ok_iff.mpr ⟨fields, found, rfl⟩, ?_⟩
  simp only [Target.rendering, Target.renderFragments, List.length_map]

def noteRendered : Rendered where
  typeName := "Note"
  fragments := ["Id: 7",
    "Parent: &notes.Note\x7b\nTags: []string\x7b\n\"a\",\n\"b\",\n\x7d,\n\x7d",
    "Ratings: map[int32]notes.Rating\x7b\n1: \"GOOD\",\n\x7d"]
  body := "Id: 7,\n" ++
    "Parent: &notes.Note\x7b\nTags: []string\x7b\n\"a\",\n\"b\",\n\x7d,\n\x7d,\n" ++
    "Ratings: map[int32]notes.Rating\x7b\n1: \"GOOD\",\n\x7d,"
  literal := "&notes.Note\x7b\n" ++ "Id: 7,\n" ++
    "Parent: &notes.Note\x7b\nTags: []string\x7b\n\"a\",\n\"b\",\n\x7d,\n\x7d,\n" ++
    "Ratings: map[int32]notes.Rating\x7b\n1: \"GOOD\",\n\x7d,\n\x7d"

set_option maxRecDepth 8000 in
theorem notes_render_fits :
    ((⟨.go, "notes"⟩ : Target).render notes "Note" noteAttributes).outcome = .ok noteRendered ∧
      noteRendered.literal = "&notes.Note\x7b" ++ "\n" ++ noteRendered.body ++ "\n" ++ "\x7d" ∧
      ∀ other : Target, ∃ rendered', (other.render notes "Note" noteAttributes).outcome =
        .ok rendered' ∧ rendered'.fragments.length = 3 := by
  have h : ((⟨.go, "notes"⟩ : Target).render notes "Note" noteAttributes).outcome =
      .ok noteRendered :=
    outcome_render_eq_ok_iff.mpr ⟨_, rfl, by decide +kernel⟩
  obtain ⟨laid, -, -, -, -, others⟩ := render_fits h
  exact ⟨h, laid, others⟩

end Service

end Typesmith
