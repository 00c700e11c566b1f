import Typesmith.Proofs.Collector
import Typesmith.Proofs.LetterCase

/-! # Selected examples

What the examples of a service give is put together from what each of them gives on its own. So a
selection by endpoint gives its part of the whole, and records its part of the warnings. The whole is
in order of the endpoints' names, and under each name in order of the document.
-/

namespace Typesmith

namespace ExampleDocument

variable {document : ExampleDocument}

def examples (document : ExampleDocument) (endpoint : String) : List Example :=
  (document.endpoints.get? endpoint).getD []

theorem pairwise_requests : (document.requests.map (·.1)).Pairwise (· ≤ ·) := by
  rw [List.pairwise_map, requests, List.pairwise_flatMap]
  constructor
  · intro entry _
    rw [List.pairwise_map]
    exact List.pairwise_of_forall fun _ _ => String.le_refl _
  · refine document.endpoints.increasing.imp ?_
    intro entry other before request mem request' mem'
    obtain ⟨_, -, rfl⟩ := List.mem_map.mp mem
    obtain ⟨_, -, rfl⟩ := List.mem_map.mp mem'
    exact String.not_lt.mp (String.lt_asymm before)

theorem filter_flatMap_of_increasing {entries : List (String × List Example)}
    (increasing : Increasing entries) (endpoint : String) :
    (entries.flatMap fun entry => entry.2.map (entry.1, ·)).filter (·.1 = endpoint) =
      ((entries.lookup endpoint).getD []).map (endpoint, ·) := by
  induction entries with
  | nil => rfl
  | cons entry rest ih =>
    obtain ⟨name, found⟩ := entry
    obtain ⟨first, later⟩ := List.pairwise_cons.mp increasing
    rw [List.flatMap_cons, List.filter_append, ih later, lookup_cons_eq]
    by_cases here : endpoint = name
    · subst here
      have absent : rest.lookup endpoint = none := by
        rw [List.lookup_eq_none_iff]
        intro other mem
        exact bne_iff_ne.mpr (String.ne_of_lt (first other mem))
      simp [absent]
    · simp [here, Ne.symm here]

theorem filter_requests (endpoint : String) :
    document.requests.filter (·.1 = endpoint) = (document.examples endpoint).map (endpoint, ·) :=
  filter_flatMap_of_increasing document.endpoints.increasing endpoint

end ExampleDocument

namespace Generator

variable {generator : Generator} {tree : FileTree} {target : Target} {name : String}
  {document : ExampleDocument} {parts : List (Report.Part EndpointExample)}

theorem endpoint_of_renderExample {endpoint : String} {sample : Example} {entry : EndpointExample}
    (h : (generator.renderExample target name endpoint sample).outcome = .ok entry) :
    entry.endpoint = endpoint := by
  obtain ⟨service, -, gave⟩ := Report.outcome_bind_eq_ok_iff.mp h
  obtain ⟨rendered, -, gave⟩ := Report.outcome_bind_eq_ok_iff.mp gave
  cases gave
  rfl

/-- The parts are the rendered examples of a document, by endpoint and then in order. -/
structure Renders (generator : Generator) (target : Target) (name : String)
    (document : ExampleDocument) (parts : List (Report.Part EndpointExample)) : Prop where
  ordered : (parts.map (·.value.endpoint)).Pairwise (· ≤ ·)
  under : ∀ endpoint, Report.Splits (document.examples endpoint)
    (generator.renderExample target name endpoint) (parts.filter (·.value.endpoint = endpoint))

abbrev SplitsInto (generator : Generator) (target : Target) (name : String)
    (document : ExampleDocument) (parts : List (Report.Part EndpointExample)) : Prop :=
  Report.Splits document.requests
    (fun request => generator.renderExample target name request.1 request.2) parts

theorem endpoint_of_report {request : String × Example} {part : Report.Part EndpointExample}
    (h : generator.renderExample target name request.1 request.2 = part.report) :
    part.value.endpoint = request.1 :=
  endpoint_of_renderExample (congrArg Report.outcome h)

theorem renders_of_splits (h : generator.SplitsInto target name document parts) :
    generator.Renders target name document parts := by
  constructor
  · have same : parts.map (·.value.endpoint) = document.requests.map (·.1) :=
      h.map_eq fun _ _ => endpoint_of_report
    rw [same]
    exact ExampleDocument.pairwise_requests
  · intro endpoint
    have kept := h.filter (p := (·.1 = endpoint)) (q := (·.value.endpoint = endpoint)) ?_
    · rw [ExampleDocument.filter_requests] at kept
      exact List.forall₂_map_left_iff.mp kept
    · intro request part here
      rw [endpoint_of_report here]

theorem renderExamples_of_document (found : generator.examples tree name = .ok document)
    (filter : Option String) : generator.renderExamples tree target name filter =
      Report.forEach (document.requests.filter fun request => selects filter request.1)
        fun request => generator.renderExample target name request.1 request.2 := by
  rw [renderExamples, found, Report.bind_lift_ok]

theorem renderExamples_of_splits (found : generator.examples tree name = .ok document)
    (h : generator.SplitsInto target name document parts) (filter : Option String) :
    generator.renderExamples tree target name filter =
      .ofParts (parts.filter fun part => selects filter part.value.endpoint) := by
  rw [renderExamples_of_document found]
  refine (h.filter ?_).forEach_eq
  intro request part here
  rw [endpoint_of_report here]

/-- If all recorded examples of a service can be rendered, those of any endpoint can. They give what
they give among all, in the same order, and record what they record there; if they are handed a
collector, after what it holds. -/
theorem renderExamples_filter
    (all : (generator.renderExamples tree target name none).Succeeds) :
    ∃ document parts, generator.examples tree name = .ok document ∧
      generator.Renders target name document parts ∧
      generator.renderExamples tree target name none = .ofParts parts ∧
      (∀ endpoint, generator.renderExamples tree target name (some endpoint) =
        .ofParts (parts.filter fun part => Text.equalIgnoringCase endpoint part.value.endpoint)) ∧
      ∀ filter diagnostics,
        (Recorder.renderExamples generator tree target name filter).on diagnostics =
          (generator.renderExamples tree target name filter).recordedOn diagnostics := by
  obtain ⟨document, found, -⟩ := Report.succeeds_bind_iff.mp all
  rw [Report.outcome_lift] at found
  have every : document.requests.filter (fun request => selects none request.1) =
      document.requests := List.filter_eq_self.mpr fun _ _ => rfl
  rw [renderExamples_of_document found, every] at all
  obtain ⟨parts, splits⟩ := Report.exists_splits all
  refine ⟨document, parts, found, renders_of_splits splits, ?_, ?_, ?_⟩
  · rw [renderExamples_of_splits found splits]
    exact congrArg Report.ofParts (List.filter_eq_self.mpr fun _ _ => rfl)
  · intro endpoint
    exact renderExamples_of_splits found splits (some endpoint)
  · intro filter diagnostics
    rw [← recorder_renderExamples, Report.on_recorder]

def keyRequest : OpenApi.Node where
  kind := some "object"
  members := [("key", { kind := some "string" })]

def archive : Service where
  name := "archive"
  document := { schemas := .ofList [("FetchRequest", keyRequest), ("StoreRequest", keyRequest)] }
  descriptors := { package := "archive", pool := {}, closed := Proto.Pool.closed_empty }
  dynamicTypes := []

def archiveGenerator : Generator where
  config := { examplesPath := "requests" }
  registry := Dict.empty.insert "archive" archive

/-- Two endpoints that differ in letter case only, and one whose name comes between theirs. -/
def archiveFiles : FileTree where
  base := []
  entries := Dict.empty.insert "requests" (.file (.text
    "\x7b\"store\":[\x7b\"request\":\x7b\"key\":\"a\"\x7d\x7d,\x7b\"request\":\x7b\"key\":7\x7d\x7d],
      \"fetch\":[\x7b\"request\":\x7b\"key\":null\x7d\x7d],
      \"Store\":[\x7b\"request\":\x7b\"key\":true\x7d\x7d]\x7d"))

abbrev archiveRun (filter : Option String) : Report (List EndpointExample) :=
  archiveGenerator.renderExamples archiveFiles ⟨.go, "archive"⟩ "archive" filter

theorem archive_filter :
    (archiveRun none).Succeeds ∧ ∃ document parts,
      archiveGenerator.Renders ⟨.go, "archive"⟩ "archive" document parts ∧
      archiveRun none = .ofParts parts ∧
      archiveRun (some "STORE") =
        .ofParts (parts.filter fun part => Text.equalIgnoringCase "STORE" part.value.endpoint) ∧
      parts.map (·.value.endpoint) = ["Store", "fetch", "store", "store"] ∧
      parts.flatMap (·.warnings) = [
        .mismatch "StoreRequest.key" "string" "boolean",
        .mismatch "FetchRequest.key" "string" "null",
        .mismatch "StoreRequest.key" "string" "number"] ∧
      (parts.filter fun part => Text.equalIgnoringCase "STORE" part.value.endpoint).map
        (·.value.endpoint) = ["Store", "store", "store"] := by
  obtain ⟨outcome, warnings⟩ : (archiveRun none).outcome.map (·.map (·.endpoint)) =
        .ok ["Store", "fetch", "store", "store"] ∧
      (archiveRun none).warnings = [
        .mismatch "StoreRequest.key" "string" "boolean",
        .mismatch "FetchRequest.key" "string" "null",
        .mismatch "StoreRequest.key" "string" "number"] := by decide +kernel
  have all : (archiveRun none).Succeeds := by
    cases gave : (archiveRun none).outcome with
    | ok entries => exact ⟨entries, gave⟩
    | error error =>
      rw [gave] at outcome
      cases outcome
  obtain ⟨document, parts, -, renders, whole, selected, -⟩ := renderExamples_filter all
  have whole : archiveRun none = .ofParts parts := whole
  rw [whole] at outcome warnings
  have names : parts.map (·.value.endpoint) = ["Store", "fetch", "store", "store"] := by
    have names : (parts.map (·.value)).map (·.endpoint) = _ := Except.ok.inj outcome
    rwa [List.map_map] at names
  have kept : ["Store", "fetch", "store", "store"].filter (Text.equalIgnoringCase "STORE") =
      ["Store", "store", "store"] := by
    have compared : Text.equalIgnoringCase "STORE" = fun name =>
        decide ("STORE".toList.map Char.toLower = name.toList.map Char.toLower) := by
      ext name
      rw [Bool.eq_iff_iff, Text.equalIgnoringCase_iff, decide_eq_true_iff]
    rw [compared]
    decide
  refine ⟨all, document, parts, renders, whole, selected "STORE", names, warnings, ?_⟩
  rw [← kept, ← names, List.filter_map]
  rfl

end Generator

end Typesmith
