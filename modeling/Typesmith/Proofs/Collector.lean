import Typesmith.Proofs.Walk
import Typesmith.Recorder

/-! # The collector is only written

An operation that is handed a collector could read it. None does: each gives what it gives on an empty
collector, and appends what it records there, also when it fails part way.
-/

namespace Typesmith

open Json (Value)
open OpenApi (Node)

namespace Report

variable {α β : Type}

def recorder (report : Report α) : Recorder α :=
  ExceptT.mk fun diagnostics => report.recordedOn diagnostics

theorem on_recorder (report : Report α) (diagnostics : Diagnostics) :
    report.recorder.on diagnostics = report.recordedOn diagnostics := rfl

theorem recorder_of_ok {report : Report α} {value : α} (h : report.outcome = .ok value)
    (next : α → Recorder β) (diagnostics : Diagnostics) :
    (report.recorder >>= next).on diagnostics =
      (next value).on (diagnostics ++ report.warnings) := by
  obtain ⟨outcome, warnings⟩ := report
  cases h
  rfl

theorem recorder_of_error {report : Report α} {error : Error} (h : report.outcome = .error error)
    (next : α → Recorder β) (diagnostics : Diagnostics) :
    (report.recorder >>= next).on diagnostics =
      (.error error, diagnostics ++ report.warnings) := by
  obtain ⟨outcome, warnings⟩ := report
  cases h
  rfl

@[simp] theorem recorder_pure (value : α) : (pure value : Report α).recorder = pure value := by
  funext diagnostics
  change (Except.ok value, diagnostics ++ []) = (Except.ok value, diagnostics)
  rw [List.append_nil]

@[simp] theorem recorder_bind (report : Report α) (next : α → Report β) :
    (report >>= next).recorder = report.recorder >>= fun value => (next value).recorder := by
  funext diagnostics
  change (report >>= next).recordedOn diagnostics =
    (report.recorder >>= fun value => (next value).recorder).on diagnostics
  cases h : report.outcome with
  | ok value =>
    rw [recorder_of_ok h, bind_of_ok h, on_recorder, recordedOn, recordedOn, List.append_assoc]
  | error error => rw [recorder_of_error h, bind_of_error h, recordedOn]

@[simp] theorem recorder_warn (warning : Warning) :
    (Report.warn warning).recorder = Recorder.warn warning := rfl

@[simp] theorem recorder_lift (outcome : Except Error α) :
    (liftM outcome : Report α).recorder = liftM outcome := by
  funext diagnostics
  change (outcome, diagnostics ++ []) = (outcome, diagnostics)
  rw [List.append_nil]

@[simp] theorem recorder_fail (error : Error) :
    (Report.fail error : Report α).recorder = throw error :=
  recorder_lift (.error error)

theorem recorder_forEach (items : List α) (run : α → Report β) :
    (forEach items run).recorder = items.mapM fun item => (run item).recorder := by
  induction items with
  | nil => exact recorder_pure []
  | cons item rest ih => simp only [forEach, List.mapM_cons, recorder_bind, recorder_pure, ih]

theorem recorder_collect (entries : List (String × Report (Option α))) :
    (collect entries).recorder =
      Recorder.collect (entries.map fun entry => (entry.1, entry.2.recorder)) := by
  induction entries with
  | nil => exact recorder_pure []
  | cons entry rest ih =>
    simp only [collect, List.map_cons, Recorder.collect, recorder_bind, recorder_pure, ih]

end Report

namespace Service

variable {service : Service}

theorem recorder_nodeTag (message field : String) (node : Node) :
    (service.nodeTag message field node).recorder =
      Recorder.nodeTag service message field node := by
  unfold nodeTag Recorder.nodeTag
  generalize node.kind = kind
  split
  · simp only [Report.recorder_pure]
  · simp only [Report.recorder_pure]
  · cases node.format.bind ScalarKind.ofFormat? <;>
      simp only [Report.recorder_bind, Report.recorder_pure, Report.recorder_warn]
  · cases node.format.bind ScalarKind.ofFormat? <;>
      simp only [Report.recorder_bind, Report.recorder_pure, Report.recorder_warn]
  · simp only [Report.recorder_bind, Report.recorder_pure, Report.recorder_lift]
  · simp only [Report.recorder_bind, Report.recorder_pure, Report.recorder_lift]
  · simp only [Report.recorder_bind, Report.recorder_pure, Report.recorder_warn]

theorem recorder_resolveNode (message field : String) (declared : Node) (required : Bool) :
    (service.resolveNode message field declared required).recorder =
      Recorder.resolveNode service message field declared required := by
  simp only [resolveNode, Recorder.resolveNode, Report.recorder_bind, Report.recorder_pure,
    recorder_nodeTag]

theorem recorder_resolve (type field : String) :
    (service.resolve type field).recorder = Recorder.resolve service type field := by
  unfold resolve Recorder.resolve
  rw [Report.recorder_bind, Report.recorder_lift]
  congr 1
  funext parent
  cases parent.properties.get? field with
  | none => exact Report.recorder_fail _
  | some node => exact recorder_resolveNode ..

theorem recorder_fields (type : String) :
    (service.fields type).recorder = Recorder.fields service type := by
  simp only [fields, Recorder.fields, Report.recorder_bind, Report.recorder_lift,
    Report.recorder_forEach, recorder_resolveNode]

theorem recorder_schema : service.schema.recorder = Recorder.schema service := by
  simp only [schema, Recorder.schema, Report.recorder_bind, Report.recorder_pure,
    Report.recorder_forEach, recorder_fields]

theorem recorder_mismatch (tag : Tag) (location : String) (value : Value) :
    (tag.mismatch location value).recorder = Recorder.mismatch tag location value := by
  simp only [Tag.mismatch, Recorder.mismatch, Report.recorder_bind, Report.recorder_pure,
    Report.recorder_warn]

theorem recorder_walkLeaf (tag : Tag) (location : String) (value : Value) :
    (service.walkLeaf tag location value).recorder =
      Recorder.walkLeaf service tag location value := by
  unfold walkLeaf Recorder.walkLeaf
  cases service.leaf? tag value with
  | none => exact recorder_mismatch ..
  | some literal => exact Report.recorder_pure _

/-- The walk of a value hands the collector through, whatever its tag, node and location. -/
def Threads (service : Service) (value : Value) : Prop :=
  ∀ tag node location, (service.walk tag node location value).recorder =
    Recorder.walk service tag node location value

theorem recorder_walkItems {items : List Value} (h : ∀ item ∈ items, service.Threads item)
    (element : Tag) (node : Option Node) (location : String) (index : Nat) :
    (service.walkItems element node location index items).recorder =
      Recorder.walkItems service element node location index items := by
  induction items generalizing index with
  | nil => exact Report.recorder_pure []
  | cons item rest ih =>
    obtain ⟨first, others⟩ := List.forall_mem_cons.mp h
    simp only [walkItems, Recorder.walkItems, Report.recorder_bind, Report.recorder_pure,
      first _ _ _, ih others]

theorem recorder_walkEntries {members : List (String × Value)}
    (h : ∀ member ∈ members, service.Threads member.2) (key value : Tag) (location : String) :
    (service.walkEntries key value location members).map
        (fun entry => (entry.1, entry.2.recorder)) =
      Recorder.walkEntries service key value location members := by
  induction members with
  | nil => rfl
  | cons member rest ih =>
    obtain ⟨first, others⟩ := List.forall_mem_cons.mp h
    obtain ⟨name, entry⟩ := member
    rw [walkEntries, List.map_cons, ih others, Recorder.walkEntries]
    congr 2
    rw [Report.recorder_bind, recorder_walkLeaf]
    congr 1
    funext found
    cases found with
    | none => exact Report.recorder_pure _
    | some literal => simp only [Report.recorder_bind, Report.recorder_pure, first _ _ _]

theorem recorder_walkMembers {members : List (String × Value)}
    (h : ∀ member ∈ members, service.Threads member.2) (message : String) (node : Node)
    (location : String) :
    (service.walkMembers message node location members).map
        (fun entry => (entry.1, entry.2.recorder)) =
      Recorder.walkMembers service message node location members := by
  induction members with
  | nil => rfl
  | cons member rest ih =>
    obtain ⟨first, others⟩ := List.forall_mem_cons.mp h
    obtain ⟨name, value⟩ := member
    rw [walkMembers, List.map_cons, ih others, Recorder.walkMembers]
    congr 2
    cases node.properties.get? name with
    | none => exact Report.recorder_pure _
    | some property =>
      simp only [Report.recorder_bind, Report.recorder_pure, recorder_resolveNode, first _ _ _]

theorem recorder_walk (value : Value) : service.Threads value := by
  induction value using Json.Value.induct with
  | null | bool | number | string =>
    intro tag node location
    simp only [walk, Recorder.walk, recorder_walkLeaf]
  | array items ih =>
    intro tag node location
    simp only [walk, Recorder.walk]
    cases tag with
    | array element => simp only [Report.recorder_bind, Report.recorder_pure, recorder_walkItems ih]
    | any => exact Report.recorder_pure _
    | _ => exact recorder_mismatch ..
  | object members ih =>
    intro tag node location
    simp only [walk, Recorder.walk]
    cases tag with
    | map key value =>
      simp only [Report.recorder_bind, Report.recorder_pure, Report.recorder_collect,
        ← recorder_walkEntries ih, byName_map]
    | message name =>
      simp only [Report.recorder_bind, Report.recorder_pure, Report.recorder_lift,
        Report.recorder_collect, ← recorder_walkMembers ih, byName_map]
    | json | any => exact Report.recorder_pure _
    | _ => exact recorder_mismatch ..

theorem recorder_exampleFields (type : String) (attributes : List (String × Value)) :
    (service.exampleFields type attributes).recorder =
      Recorder.exampleFields service type attributes := by
  have walked : ∀ member ∈ attributes, service.Threads member.2 := fun member _ =>
    recorder_walk member.2
  simp only [exampleFields, Recorder.exampleFields, walkObject, Report.recorder_bind,
    Report.recorder_lift, Report.recorder_collect, ← recorder_walkMembers walked, byName_map]

theorem recorder_messageLiteral (type : String) (attributes : List (String × Value)) :
    (service.messageLiteral type attributes).recorder =
      Recorder.messageLiteral service type attributes := by
  simp only [messageLiteral, Recorder.messageLiteral, Report.recorder_bind, Report.recorder_pure,
    recorder_exampleFields]

theorem recorder_render (target : Target) (type : String) (attributes : List (String × Value)) :
    (target.render service type attributes).recorder =
      Recorder.render service target type attributes := by
  simp only [Target.render, Recorder.render, Report.recorder_bind, Report.recorder_pure,
    recorder_exampleFields]

end Service

namespace Generator

variable {generator : Generator}

theorem recorder_service (name : String) :
    (generator.service name).recorder = liftM (generator.registry.service name) :=
  Report.recorder_lift _

theorem recorder_renderExample (target : Target) (name endpoint : String) (sample : Example) :
    (generator.renderExample target name endpoint sample).recorder =
      Recorder.renderExample generator target name endpoint sample := by
  simp only [renderExample, Recorder.renderExample, Report.recorder_bind, Report.recorder_pure,
    recorder_service, Service.recorder_render]

theorem recorder_renderExamples (tree : FileTree) (target : Target) (name : String)
    (filter : Option String) :
    (generator.renderExamples tree target name filter).recorder =
      Recorder.renderExamples generator tree target name filter := by
  simp only [renderExamples, Recorder.renderExamples, Report.recorder_bind, Report.recorder_lift,
    Report.recorder_forEach, recorder_renderExample]

theorem recorder_declareType (target : Target) (name type : String) :
    (generator.declareType target name type).recorder =
      Recorder.declareType generator target name type := by
  simp only [declareType, Recorder.declareType, Report.recorder_bind, Report.recorder_pure,
    recorder_service, Service.recorder_fields]

theorem recorder_declareService (target : Target) (name : String) :
    (generator.declareService target name).recorder =
      Recorder.declareService generator target name := by
  simp only [declareService, Recorder.declareService, Report.recorder_bind, Report.recorder_pure,
    recorder_service, Service.recorder_schema]

end Generator

theorem Operation.recorder_run (tree : FileTree) (generator : Generator) (name : String)
    (operation : Operation) :
    (operation.run tree generator name).recorder = operation.record tree generator name := by
  cases operation with
  | typeSchema | isEnumValue | endpoints =>
    simp only [run, record, Report.recorder_bind, Report.recorder_pure, Report.recorder_lift,
      Generator.recorder_service]
  | resolve => simp only [run, record, Report.recorder_bind, Generator.recorder_service,
      Service.recorder_resolve]
  | resolveNode => simp only [run, record, Report.recorder_bind, Generator.recorder_service,
      Service.recorder_resolveNode]
  | fields => simp only [run, record, Report.recorder_bind, Generator.recorder_service,
      Service.recorder_fields]
  | schema => simp only [run, record, Report.recorder_bind, Generator.recorder_service,
      Service.recorder_schema]
  | messageLiteral => simp only [run, record, Report.recorder_bind, Generator.recorder_service,
      Service.recorder_messageLiteral]
  | render => simp only [run, record, Report.recorder_bind, Generator.recorder_service,
      Service.recorder_render]
  | declareType => exact Generator.recorder_declareType ..
  | declareService => exact Generator.recorder_declareService ..
  | renderExamples => exact Generator.recorder_renderExamples ..

/-- An operation gives on any collector what it gives on an empty one, and appends to the collector
what it records on an empty one, whether it succeeds or fails part way. -/
theorem Operation.diagnostics_write_only (tree : FileTree) (generator : Generator) (name : String)
    (operation : Operation) (diagnostics : Diagnostics) :
    (operation.record tree generator name).on diagnostics =
        (((operation.record tree generator name).on []).1,
          diagnostics ++ ((operation.record tree generator name).on []).2) ∧
      (operation.run tree generator name).recordedOn diagnostics =
        (operation.record tree generator name).on diagnostics := by
  have same (collector : Diagnostics) : (operation.record tree generator name).on collector =
      (operation.run tree generator name).recordedOn collector := by
    rw [← recorder_run, Report.on_recorder]
  rw [same, same]
  exact ⟨rfl, rfl⟩

end Typesmith
