import Typesmith.Generator
import Typesmith.Proofs.Declared

/-! # Batches

What is done for all names at once is what is done for each of them alone, in order of name. A type
has the fields that its properties resolve to, and a service the types that its components give;
the declarations of a service are those of its types.
-/

namespace Typesmith

open OpenApi (Node)

namespace Report

variable {β γ : Type} {names : List String} {run : String → Report β}

/-- The least of some names for which an operation fails, with its error. -/
structure FailsFirst (names : List String) (run : String → Report β) (name : String)
    (error : Error) : Prop where
  mem : name ∈ names
  fails : (run name).outcome = .error error
  least : ∀ earlier ∈ names, earlier < name → (run earlier).Succeeds

/-- A batch gives what an operation gives for each name, under the name, and fails if that fails for
one of them. `entry` says what a result of the batch stands for. -/
structure IsBatch (names : List String) (run : String → Report β) (entry : γ → String × β)
    (batch : Report (List γ)) : Prop where
  succeeds_iff : batch.Succeeds ↔ ∀ name ∈ names, (run name).Succeeds
  results : ∀ results, batch.outcome = .ok results ↔ List.Forall₂ (fun name result =>
    (entry result).1 = name ∧ (run name).outcome = .ok (entry result).2) names results
  increasing : ∀ results, batch.outcome = .ok results → Increasing (results.map entry)
  warnings : batch.Succeeds → batch.warnings = names.flatMap fun name => (run name).warnings
  fails_first : ∀ error, batch.outcome = .error error → ∃ name, FailsFirst names run name error

theorem failsFirst_of_split {before after : List String} {name : String} {error : Error}
    (increasing : (before ++ name :: after).Pairwise (· < ·))
    (all : ∀ earlier ∈ before, (run earlier).Succeeds)
    (fails : (run name).outcome = .error error) :
    FailsFirst (before ++ name :: after) run name error := by
  refine ⟨by simp, fails, fun earlier mem less => ?_⟩
  obtain ⟨-, later, -⟩ := List.pairwise_append.mp increasing
  rcases List.mem_append.mp mem with mem | mem
  · exact all earlier mem
  · have not_less : ¬ earlier < name := by
      rcases List.mem_cons.mp mem with rfl | mem
      · exact String.lt_irrefl earlier
      · exact String.lt_asymm ((List.pairwise_cons.mp later).1 earlier mem)
    exact absurd less not_less

theorem fst_eq_of_forall₂ {entry : γ → String × β} {results : List γ}
    (h : List.Forall₂ (fun name result =>
      (entry result).1 = name ∧ (run name).outcome = .ok (entry result).2) names results) :
    (results.map entry).map (·.1) = names := by
  induction h with
  | nil => rfl
  | cons head _ ih => rw [List.map_cons, List.map_cons, head.1, ih]

theorem isBatch_forEach {entry : γ → String × β} {step : String → Report γ}
    (increasing : names.Pairwise (· < ·))
    (effect : ∀ name ∈ names, (step name).effect = (run name).effect)
    (result : ∀ name result, (step name).outcome = .ok result ↔
      (entry result).1 = name ∧ (run name).outcome = .ok (entry result).2) :
    IsBatch names run entry (forEach names step) := by
  have same : (forEach names step).effect = (forEach names run).effect := effect_forEach effect
  have results (results : List γ) : (forEach names step).outcome = .ok results ↔
      List.Forall₂ (fun name result =>
        (entry result).1 = name ∧ (run name).outcome = .ok (entry result).2) names results := by
    simp only [outcome_forEach_eq_ok_iff, result]
  refine ⟨?_, results, fun found h => ?_, fun h => ?_, fun error h => ?_⟩
  · rw [succeeds_iff_of_effect same, succeeds_forEach_iff]
  · refine List.pairwise_map.mp ?_
    rwa [fst_eq_of_forall₂ ((results found).mp h)]
  · rw [warnings_of_effect same]
    exact warnings_forEach (succeeds_forEach_iff.mp ((succeeds_iff_of_effect same).mp h))
  · have h : (forEach names run).outcome = .error error := outcome_eq_error_of_effect same h
    obtain ⟨before, name, after, rfl, all, fails⟩ := outcome_forEach_eq_error_iff.mp h
    exact ⟨name, failsFirst_of_split increasing all fails⟩

theorem isBatch_keys {α : Type} (dict : Dict α) (run : String → Report β) :
    IsBatch dict.keys run id (forEach dict.keys fun name => do return (name, ← run name)) := by
  refine isBatch_forEach dict.pairwise_keys (fun _ _ => effect_return) fun name result => ?_
  rw [return_eq]
  cases (run name).outcome with
  | ok value => simp [Except.map, Prod.ext_iff, eq_comm (a := name)]
  | error error => simp [Except.map]

end Report

namespace Service

variable {service : Service} {type : String} {parent : Node}

theorem resolve_of_typeSchema {name : String} {node : Node}
    (found : service.typeSchema type = .ok parent)
    (property : parent.properties.get? name = some node) :
    service.resolve type name = service.resolveNode type name node (parent.isRequired name) := by
  rw [resolve, found, Report.bind_lift_ok]
  simp only [property]

theorem fields_eq_forEach (found : service.typeSchema type = .ok parent) :
    service.fields type = Report.forEach parent.properties.keys (service.resolve type) := by
  rw [fields, found, Report.bind_lift_ok]
  refine Report.forEach_congr ?_
  rw [Dict.keys, List.map_map]
  refine List.map_congr_left fun (name, node) mem => ?_
  exact (resolve_of_typeSchema found (Dict.get?_of_mem_entries mem)).symm

theorem name_of_resolve {name : String} {field : Field}
    (h : (service.resolve type name).outcome = .ok field) : field.name = name := by
  obtain ⟨parent, -, h⟩ := Report.outcome_bind_eq_ok_iff.mp h
  split at h
  · exact name_of_resolveNode h
  · cases h

theorem isBatch_fields (found : service.typeSchema type = .ok parent) :
    Report.IsBatch parent.properties.keys (service.resolve type)
      (fun field => (field.name, field)) (service.fields type) := by
  rw [fields_eq_forEach found]
  refine Report.isBatch_forEach parent.properties.pairwise_keys (fun _ _ => rfl) fun name field => ?_
  exact ⟨fun h => ⟨name_of_resolve h, h⟩, fun ⟨_, h⟩ => h⟩

theorem schema_types_eq : (do return (← service.schema).types) =
    Report.forEach service.document.schemas.keys fun type => do
      return (type, ← service.fields type) := by
  simp only [schema, Report.bind_assoc, Report.pure_bind, Report.bind_pure]

end Service

namespace Generator

variable {generator : Generator} {name : String} {service : Service} {target : Target}

theorem declareType_of_service (found : generator.registry.service name = .ok service)
    (type : String) :
    generator.declareType target name type = do
      return target.declareFields (← service.fields type) := by
  rw [declareType, Generator.service, found, Report.bind_lift_ok]

theorem declareService_eq_forEach (found : generator.registry.service name = .ok service) :
    generator.declareService target name =
      Report.forEach service.document.schemas.keys fun type => do
        return (type, ← generator.declareType target name type) :=
  calc generator.declareService target name
    _ = do return (← (do return (← service.schema).types)).map fun entry =>
          (entry.1, target.declareFields entry.2) := by
      rw [declareService, Generator.service, found, Report.bind_lift_ok, Report.bind_assoc]
      rfl
    _ = Report.forEach service.document.schemas.keys fun type => do
          return (type, ← generator.declareType target name type) := by
      rw [Service.schema_types_eq, Report.return_forEach]
      simp only [declareType_of_service found, Report.bind_assoc, Report.pure_bind]

/-- The fields of a type, the types of a service and their declarations are the same all at once as
one by one. -/
theorem batch_eq_single (found : generator.registry.service name = .ok service)
    (target : Target) :
    (∀ type, service.document.schemas.contains type = true →
      ∃ parent, service.typeSchema type = .ok parent ∧
        Report.IsBatch parent.properties.keys (service.resolve type)
          (fun field => (field.name, field)) (service.fields type)) ∧
    Report.IsBatch service.document.schemas.keys service.fields id
      (do return (← service.schema).types) ∧
    Report.IsBatch service.document.schemas.keys (generator.declareType target name) id
      (generator.declareService target name) := by
  refine ⟨fun type component => ?_, ?_, ?_⟩
  · obtain ⟨parent, schema⟩ := Service.typeSchema_of_contains component
    exact ⟨parent, schema, Service.isBatch_fields schema⟩
  · rw [Service.schema_types_eq]
    exact Report.isBatch_keys _ _
  · rw [declareService_eq_forEach found]
    exact Report.isBatch_keys _ _

def shopGenerator : Generator where
  config := {}
  registry := Dict.empty.insert "shop" Service.shop

set_option maxRecDepth 8000 in
/-- Of the types of the shop the second one cannot be declared, as its last property does not
resolve. -/
theorem shop_batch :
    shopGenerator.registry.service "shop" = .ok Service.shop ∧
      Service.shop.document.schemas.contains "Order" = true ∧
      Report.FailsFirst ["buyer", "gift", "lines"] (Service.shop.resolve "Order") "lines"
        (.fieldNotFound "shop" "Order" "lines") ∧
      Report.FailsFirst ["Buyer", "Order"] (shopGenerator.declareType ⟨.dart, "shop"⟩ "shop")
        "Order" (.fieldNotFound "shop" "Order" "lines") := by
  have found : shopGenerator.registry.service "shop" = .ok Service.shop := rfl
  have component : Service.shop.document.schemas.contains "Order" = true := by decide
  obtain ⟨fields, -, declarations⟩ := batch_eq_single found ⟨.dart, "shop"⟩
  refine ⟨found, component, ?_, ?_⟩
  · obtain ⟨parent, schema, batch⟩ := fields "Order" component
    obtain rfl := Except.ok.inj schema
    obtain ⟨name, first⟩ := batch.fails_first (.fieldNotFound "shop" "Order" "lines") rfl
    have mem : name ∈ ["buyer", "gift", "lines"] := first.mem
    rcases mem with _ | ⟨_, _ | ⟨_, _ | ⟨_, ⟨⟩⟩⟩⟩
    · cases first.fails
    · cases first.fails
    · exact first
  · obtain ⟨type, first⟩ := declarations.fails_first (.fieldNotFound "shop" "Order" "lines") rfl
    have mem : type ∈ ["Buyer", "Order"] := first.mem
    rcases mem with _ | ⟨_, _ | ⟨_, ⟨⟩⟩⟩
    · cases first.fails
    · exact first

end Generator

end Typesmith
