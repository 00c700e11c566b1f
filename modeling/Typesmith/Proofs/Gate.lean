import Typesmith.Command
import Typesmith.Proofs.Dict
import Typesmith.Proofs.Report

/-! # The check of a service

A check resolves every type and walks every recorded example, once. So it succeeds exactly if all
declarations and all examples can be printed, and it warns of what these warn of in one language.
-/

namespace Typesmith.Generator

variable {α : Type} {generator : Generator} {tree : FileTree} {name : String}
  {requested : List Language}

def schema (generator : Generator) (name : String) : Report ServiceSchema := do
  let service ← generator.service name
  service.schema

/-- The literals of the recorded requests of every endpoint that passes a filter. -/
def requestLiterals (generator : Generator) (tree : FileTree) (name : String)
    (filter : Option String) : Report (List Literal) := do
  let document ← generator.examples tree name
  Report.forEach (document.requests.filter fun (endpoint, _) => selects filter endpoint)
    fun (endpoint, sample) => do
      let service ← generator.service name
      service.messageLiteral (Naming.requestType endpoint) sample.request

theorem effect_declareService {target : Target} :
    (generator.declareService target name).effect = (generator.schema name).effect := by
  simp [declareService, schema]

theorem effect_render {target : Target} {service : Service} {type : String}
    {attributes : List (String × Json.Value)} :
    (target.render service type attributes).effect =
      (service.messageLiteral type attributes).effect := by
  simp [Target.render, Service.messageLiteral]

theorem effect_renderExamples {target : Target} {filter : Option String} :
    (generator.renderExamples tree target name filter).effect =
      (generator.requestLiterals tree name filter).effect := by
  simp only [renderExamples, requestLiterals, Report.effect_bind]
  congr 1
  funext document
  refine Report.effect_forEach fun request _ => ?_
  simp [renderExample, effect_render]

theorem effect_walkExamples :
    (generator.walkExamples tree name).effect =
      (generator.requestLiterals tree name none).effect := by
  have all (document : ExampleDocument) :
      document.requests.filter (fun request => selects none request.1) = document.requests :=
    List.filter_eq_self.mpr fun _ _ => rfl
  simp [walkExamples, requestLiterals, all]

theorem effect_checkService :
    (generator.checkService tree name).effect =
      (do
        let _ ← generator.schema name
        generator.requestLiterals tree name none).effect := by
  simp [checkService, schema, effect_walkExamples, Report.bind_assoc]

theorem effect_checkText :
    (generator.checkText tree [name]).effect =
      (do
        let _ ← generator.schema name
        generator.requestLiterals tree name none).effect := by
  rw [← effect_checkService]
  simp [checkText, Report.forEach]

theorem chosenLanguages_of_ne_nil (h : requested ≠ []) :
    generator.chosenLanguages requested = requested := by
  cases requested with
  | nil => exact absurd rfl h
  | cons => rfl

theorem effect_typesText {type : Option String} {report : Report α} (h : requested ≠ [])
    (each : ∀ target, (generator.declarations target name type).effect = report.effect) :
    (generator.typesText name type requested).effect =
      (Report.forEach requested fun _ => report).effect := by
  simp only [typesText, chosenLanguages_of_ne_nil h, Report.effect_return]
  refine Report.effect_forEach fun language _ => ?_
  rw [Report.effect_return, each]

theorem effect_typesText_none (h : requested ≠ []) :
    (generator.typesText name none requested).effect =
      (Report.forEach requested fun _ => generator.schema name).effect :=
  effect_typesText h fun _ => effect_declareService

theorem effect_examplesText {filter : Option String} (h : requested ≠ []) :
    (generator.examplesText tree name filter requested).effect =
      (Report.forEach requested fun _ => generator.requestLiterals tree name filter).effect := by
  simp only [examplesText, chosenLanguages_of_ne_nil h, Report.effect_return]
  refine Report.effect_forEach fun language _ => ?_
  rw [Report.effect_return, effect_renderExamples]

theorem succeeds_typesText_iff (h : requested ≠ []) :
    (generator.typesText name none requested).Succeeds ↔ (generator.schema name).Succeeds := by
  rw [Report.succeeds_iff_of_effect (effect_typesText_none h), Report.succeeds_forEach_const_iff h]

theorem warnings_typesText (h : requested ≠ []) (all : (generator.schema name).Succeeds) :
    (generator.typesText name none requested).warnings =
      (List.replicate requested.length (generator.schema name).warnings).flatten := by
  rw [Report.warnings_of_effect (effect_typesText_none h),
    Report.warnings_forEach_const all]

theorem succeeds_examplesText_iff {filter : Option String} (h : requested ≠ []) :
    (generator.examplesText tree name filter requested).Succeeds ↔
      (generator.requestLiterals tree name filter).Succeeds := by
  rw [Report.succeeds_iff_of_effect (effect_examplesText h), Report.succeeds_forEach_const_iff h]

theorem warnings_examplesText (h : requested ≠ [])
    (walked : (generator.requestLiterals tree name none).Succeeds) :
    (generator.examplesText tree name none requested).warnings =
      (List.replicate requested.length
        (generator.requestLiterals tree name none).warnings).flatten := by
  rw [Report.warnings_of_effect (effect_examplesText h), Report.warnings_forEach_const walked]

theorem succeeds_checkText_iff :
    (generator.checkText tree [name]).Succeeds ↔
      (generator.schema name).Succeeds ∧ (generator.requestLiterals tree name none).Succeeds := by
  rw [Report.succeeds_iff_of_effect effect_checkText, Report.succeeds_bind_iff]
  exact ⟨fun ⟨schema, found, walked⟩ => ⟨⟨schema, found⟩, walked⟩,
    fun ⟨⟨schema, found⟩, walked⟩ => ⟨schema, found, walked⟩⟩

theorem succeeds_typesText_some (h : requested ≠ []) (all : (generator.schema name).Succeeds) :
    ∃ service, generator.registry.service name = .ok service ∧
      ∀ type, service.document.schemas.contains type = true →
        (generator.typesText name (some type) requested).Succeeds := by
  obtain ⟨service, found, types⟩ := Report.succeeds_bind_iff.mp all
  refine ⟨service, found, fun type component => ?_⟩
  have each (target : Target) : (generator.declarations target name (some type)).effect =
      (service.fields type).effect :=
    calc (generator.declarations target name (some type)).effect
      _ = generator.service name >>= fun service => (service.fields type).effect := by
        simp [declarations, declareType]
      _ = (service.fields type).effect := Report.bind_of_ok found
  rw [Report.succeeds_iff_of_effect (effect_typesText h each), Report.succeeds_forEach_const_iff h]
  have fields := Report.succeeds_forEach_iff.mp (Report.succeeds_return_iff.mp types) type
    (Dict.mem_keys_of_contains component)
  exact Report.succeeds_return_iff.mp fields

/-- Any selection of the requests can be walked if all can. -/
theorem succeeds_requestLiterals {filter : Option String}
    (all : (generator.requestLiterals tree name none).Succeeds) :
    (generator.requestLiterals tree name filter).Succeeds := by
  obtain ⟨document, found, walked⟩ := Report.succeeds_bind_iff.mp all
  refine Report.succeeds_bind_iff.mpr ⟨document, found, Report.succeeds_forEach_iff.mpr ?_⟩
  intro request mem
  exact Report.succeeds_forEach_iff.mp walked request
    (List.mem_filter.mpr ⟨(List.mem_filter.mp mem).1, rfl⟩)

/-- The check of a service succeeds exactly if all its declarations and all its examples can be
printed in some languages. Then any of them can, and the warnings of the check are those of the
declarations in one language and those of the examples in one language, which every other language
repeats. -/
theorem checkText_gate (generator : Generator) (tree : FileTree) (name : String)
    {requested : List Language} (h : requested ≠ []) :
    ((generator.checkText tree [name]).Succeeds ↔
      (generator.typesText name none requested).Succeeds ∧
        (generator.examplesText tree name none requested).Succeeds) ∧
    ((generator.checkText tree [name]).Succeeds →
      (∃ service, generator.registry.service name = .ok service ∧
        ∀ type, service.document.schemas.contains type = true →
          (generator.typesText name (some type) requested).Succeeds) ∧
      (∀ filter, (generator.examplesText tree name filter requested).Succeeds) ∧
      ∃ declared walked,
        (generator.checkText tree [name]).warnings = declared ++ walked ∧
        (∀ language, (generator.typesText name none [language]).warnings = declared ∧
          (generator.examplesText tree name none [language]).warnings = walked) ∧
        (generator.typesText name none requested).warnings =
          (List.replicate requested.length declared).flatten ∧
        (generator.examplesText tree name none requested).warnings =
          (List.replicate requested.length walked).flatten) := by
  have single (language : Language) : [language] ≠ [] := List.cons_ne_nil _ _
  refine ⟨?_, fun passes => ?_⟩
  · rw [succeeds_checkText_iff, succeeds_typesText_iff h, succeeds_examplesText_iff h]
  · obtain ⟨all, walked⟩ := succeeds_checkText_iff.mp passes
    refine ⟨succeeds_typesText_some h all, fun filter => ?_, (generator.schema name).warnings,
      (generator.requestLiterals tree name none).warnings, ?_, fun language => ⟨?_, ?_⟩,
      warnings_typesText h all, warnings_examplesText h walked⟩
    · exact (succeeds_examplesText_iff h).mpr (succeeds_requestLiterals walked)
    · obtain ⟨schema, found⟩ := all
      rw [Report.warnings_of_effect effect_checkText, Report.warnings_bind_of_ok found]
    · simpa using warnings_typesText (single language) all
    · simpa using warnings_examplesText (single language) walked

def storage : Service where
  name := "storage"
  document := {
    schemas := .ofList [
      ("StoreRequest", {
        kind := some "object"
        members := [("key", { kind := some "string" }), ("size", { kind := some "number" })] })] }
  descriptors := { package := "storage", pool := {}, closed := Proto.Pool.closed_empty }
  dynamicTypes := []

def storageGenerator : Generator where
  config := { examplesPath := "requests" }
  registry := Dict.empty.insert "storage" storage

def storageFiles : FileTree where
  base := []
  entries := Dict.empty.insert "requests"
    (.file (.text "\x7b\"store\":[\x7b\"request\":\x7b\"key\":true,\"size\":8\x7d\x7d]\x7d"))

theorem storage_gate :
    [Language.go, .dart] ≠ [] ∧
      (storageGenerator.checkText storageFiles ["storage"]).Succeeds ∧
      (storageGenerator.typesText "storage" (some "StoreRequest") [.go, .dart]).Succeeds ∧
      (storageGenerator.examplesText storageFiles "storage" (some "STORE") [.go, .dart]).Succeeds ∧
      ∃ declared walked, declared ++ walked = [
          .unsupportedFormat "storage.StoreRequest.size" "",
          .mismatch "StoreRequest.key" "string" "boolean",
          .unsupportedFormat "storage.StoreRequest.size" ""] ∧
        (storageGenerator.typesText "storage" none [.go, .dart]).warnings =
          declared ++ declared ∧
        (storageGenerator.examplesText storageFiles "storage" none [.go, .dart]).warnings =
          walked ++ walked := by
  have languages : [Language.go, .dart] ≠ [] := List.cons_ne_nil _ _
  have passes : (storageGenerator.checkText storageFiles ["storage"]).Succeeds := by
    decide +kernel
  obtain ⟨-, parts⟩ := checkText_gate storageGenerator storageFiles "storage" languages
  obtain ⟨⟨service, found, types⟩, examples, declared, walked, all, -, two, two'⟩ := parts passes
  obtain rfl : storage = service := Except.ok.inj found
  refine ⟨languages, passes, types _ (by decide), examples _, declared, walked, ?_, ?_, ?_⟩
  · rw [← all]
    decide +kernel
  · simpa using two
  · simpa using two'

end Typesmith.Generator
