import Typesmith.OpenApi.Document
import Typesmith.Proofs.Dict
import Typesmith.Proofs.LetterCase
import Typesmith.Proofs.Replace

/-! # Streaming endpoints

An endpoint is named by the type of its requests, and streams as its path does. The path is looked
up by that type without any `Request` in it, so an endpoint gets the mode of its own path exactly
where its name has none.
-/

namespace Typesmith.OpenApi

open Text

theorem endpointName?_eq_some_iff {requestType name : String} :
    Document.endpointName? requestType = some name ↔
      requestType = name ++ requestSuffix ∧ name ≠ "" := by
  simp only [Document.endpointName?, Option.filter_eq_some_iff, beforeSuffix?_eq_some_iff,
    Bool.not_eq_eq_eq_not, Bool.not_true, String.isEmpty_eq_false_iff]

theorem unbordered_requestSuffix : Unbordered requestSuffix.toList := by
  decide

theorem requestSuffix_ne_nil : requestSuffix.toList ≠ [] := by
  decide

def ownPath (service name : String) : String :=
  "/" ++ service ++ "/" ++ Naming.capitalize service ++ "/" ++ name

def strippedName (name : String) : String :=
  replaceAll requestSuffix "" name

theorem endpointPath_requestType (service name : String) :
    Document.endpointPath service (name ++ requestSuffix) =
      ownPath service (strippedName name) := by
  rw [Document.endpointPath, replaceAll_append_self unbordered_requestSuffix requestSuffix_ne_nil]
  rfl

theorem length_ownPath (service name : String) :
    (ownPath service name).length = (ownPath service "").length + name.length := by
  simp [ownPath]

namespace Document

variable {document : Document} {service name : String} {item : PathItem}

/-- One path alone is written in some way, letter case of no account, and this is what it takes. -/
structure SolePath (document : Document) (path : String) (item : PathItem) : Prop where
  exists_key : ∃ key, document.paths.get? key = some item ∧ equalIgnoringCase key path = true
  unique : ∀ key ∈ document.paths.keys, ∀ other ∈ document.paths.keys,
    equalIgnoringCase key path = true → equalIgnoringCase other path = true → key = other

theorem SolePath.find?_eq {path : String} (sole : document.SolePath path item) :
    ∃ key, document.paths.entries.reverse.find? (equalIgnoringCase ·.1 path) =
      some (key, item) := by
  obtain ⟨key, found, same⟩ := sole.exists_key
  have mem : (key, item) ∈ document.paths.entries := Dict.mem_entries_of_get? found
  refine ⟨key, ?_⟩
  cases h : document.paths.entries.reverse.find? (equalIgnoringCase ·.1 path) with
  | none =>
    have := List.find?_eq_none.mp h _ (List.mem_reverse.mpr mem)
    exact absurd same this
  | some entry =>
    obtain ⟨other, found'⟩ := entry
    have mem' : (other, found') ∈ document.paths.entries :=
      List.mem_reverse.mp (List.mem_of_find?_eq_some h)
    have same' := List.find?_some h
    obtain rfl : key = other := sole.unique _ (List.mem_map_of_mem mem) _ (List.mem_map_of_mem mem')
      same same'
    rw [Dict.mem_entries_iff, found] at mem'
    cases mem'
    rfl

theorem isStream_of_sole (sole : document.SolePath (ownPath service (strippedName name)) item) :
    document.isStream service (name ++ requestSuffix) = .ok item.streams := by
  obtain ⟨key, found⟩ := sole.find?_eq
  simp only [isStream, endpointPath_requestType, found]

theorem isStream_of_missing (missing : ∀ key ∈ document.paths.keys,
      equalIgnoringCase key (ownPath service (strippedName name)) = false) :
    document.isStream service (name ++ requestSuffix) =
      .error (.endpointNotFound (ownPath service (strippedName name))) := by
  have nowhere : document.paths.entries.reverse.find?
      (equalIgnoringCase ·.1 (ownPath service (strippedName name))) = none := by
    rw [List.find?_eq_none]
    intro entry mem
    rw [missing entry.1 (List.mem_map_of_mem (List.mem_reverse.mp mem))]
    exact Bool.false_ne_true
  simp only [isStream, endpointPath_requestType, nowhere]

theorem mapM_eq_ok_iff {α β ε : Type} {f : α → Except ε β} {items : List α} {results : List β} :
    items.mapM f = .ok results ↔ items.map f = results.map .ok := by
  induction items generalizing results with
  | nil => cases results <;> simp [pure, Except.pure]
  | cons item rest ih =>
    rw [List.mapM_cons, List.map_cons]
    cases results with
    | nil => cases f item <;> cases rest.mapM f <;> simp [bind, Except.bind, pure, Except.pure]
    | cons result results =>
      rw [List.map_cons, List.cons.injEq, ← ih]
      cases f item <;> cases rest.mapM f <;> simp [bind, Except.bind, pure, Except.pure]

theorem endpoint_eq_ok_iff {requestType : String} {node : Node} {endpoint : Endpoint} :
    document.endpoint service requestType name node = .ok endpoint ↔
      ∃ streaming, document.isStream service requestType = .ok streaming ∧
        endpoint = ⟨name, requestType, name ++ responseSuffix, streaming, node.description⟩ := by
  rw [Document.endpoint]
  cases document.isStream service requestType <;>
    simp [bind, Except.bind, pure, Except.pure, eq_comm]

section

variable {all : List Endpoint} (h : document.endpoints service = .ok all)
include h

theorem of_mem_endpoints {endpoint : Endpoint} (mem : endpoint ∈ all) :
    endpoint.requestType = endpoint.name ++ requestSuffix ∧
      document.isStream service endpoint.requestType = .ok endpoint.streaming := by
  have result : (Except.ok endpoint : Except Error Endpoint) ∈ all.map .ok :=
    List.mem_map_of_mem mem
  rw [← mapM_eq_ok_iff.mp h] at result
  obtain ⟨⟨requestType, name, node⟩, request, made⟩ := List.mem_map.mp result
  obtain ⟨schema, -, named⟩ := List.mem_filterMap.mp request
  obtain ⟨_, of_name, same⟩ := Option.map_eq_some_iff.mp named
  cases same
  obtain ⟨streaming, found, rfl⟩ := endpoint_eq_ok_iff.mp made
  exact ⟨(endpointName?_eq_some_iff.mp of_name).1, found⟩

theorem isStream_of_mem_endpoints {endpoint : Endpoint} (mem : endpoint ∈ all) :
    document.isStream service (endpoint.name ++ requestSuffix) = .ok endpoint.streaming := by
  obtain ⟨named, found⟩ := of_mem_endpoints h mem
  rwa [named] at found

theorem exists_endpoint (listed : document.schemas.contains (name ++ requestSuffix) = true)
    (named : name ≠ "") : ∃ endpoint ∈ all, endpoint.name = name := by
  obtain ⟨node, found⟩ := Option.isSome_iff_exists.mp listed
  have of_name : endpointName? (name ++ requestSuffix) = some name :=
    endpointName?_eq_some_iff.mpr ⟨rfl, named⟩
  have made : document.endpoint service (name ++ requestSuffix) name node ∈ all.map .ok := by
    rw [← mapM_eq_ok_iff.mp h]
    refine List.mem_map.mpr ⟨(name ++ requestSuffix, name, node), ?_, rfl⟩
    refine List.mem_filterMap.mpr ⟨_, Dict.mem_entries_of_get? found, ?_⟩
    exact Option.map_eq_some_iff.mpr ⟨name, of_name, rfl⟩
  obtain ⟨endpoint, mem, made⟩ := List.mem_map.mp made
  obtain ⟨_, -, rfl⟩ := endpoint_eq_ok_iff.mp made.symm
  exact ⟨_, mem, rfl⟩

end

/-- An endpoint streams exactly if the responses of an item do, and is listed so. -/
structure HasMode (document : Document) (service name : String) (item : PathItem) : Prop where
  isStream : document.isStream service (name ++ requestSuffix) =
    .ok (item.responses.any (·.contains "stream"))
  exists_endpoint : ∀ all, document.endpoints service = .ok all →
    ∃ endpoint ∈ all, endpoint.name = name
  streaming : ∀ all, document.endpoints service = .ok all → ∀ endpoint ∈ all,
    endpoint.name = name → endpoint.streaming = item.responses.any (·.contains "stream")

theorem hasMode_of_sole (listed : document.schemas.contains (name ++ requestSuffix) = true)
    (named : name ≠ "") (sole : document.SolePath (ownPath service (strippedName name)) item) :
    document.HasMode service name item := by
  have found := isStream_of_sole sole
  refine ⟨found, fun all h => exists_endpoint h listed named, fun all h endpoint mem same => ?_⟩
  have streaming := isStream_of_mem_endpoints h mem
  rw [same, found] at streaming
  exact (Except.ok.inj streaming).symm

def ofEndpoint (service name : String) : Document where
  schemas := Dict.empty.insert (name ++ requestSuffix) {}
  paths := Dict.empty.insert (ownPath service name) {}

theorem solePath_ofEndpoint (service name : String) :
    (ofEndpoint service name).SolePath (ownPath service name) {} where
  exists_key := ⟨ownPath service name, by simp [ofEndpoint, Dict.get?_insert], beq_self_eq_true _⟩
  unique := by
    simp [ofEndpoint, Dict.keys, Dict.insert, Dict.empty, insertByName]

theorem not_hasMode_ofEndpoint (occurs : requestSuffix.toList <:+: name.toList) :
    ¬ (ofEndpoint service name).HasMode service name {} := by
  intro mode
  have shorter : (ownPath service (strippedName name)).length < (ownPath service name).length := by
    rw [length_ownPath, length_ownPath service name, strippedName]
    exact Nat.add_lt_add_left (length_replaceAll_empty_lt occurs requestSuffix_ne_nil) _
  have missing : ∀ key ∈ (ofEndpoint service name).paths.keys,
      equalIgnoringCase key (ownPath service (strippedName name)) = false := by
    intro key mem
    obtain rfl : key = ownPath service name := by
      simpa [ofEndpoint, Dict.keys, Dict.insert, Dict.empty, insertByName] using mem
    rw [Bool.eq_false_iff]
    exact fun same => Nat.ne_of_gt shorter (length_of_equalIgnoringCase same)
  have found := mode.isStream
  rw [isStream_of_missing missing] at found
  cases found

/-- The mode of an endpoint is that of the path which has its name without any `Request` in it. So
its own path, where there is one alone, decides about it exactly if no `Request` is in its name. -/
theorem hasMode_of_path (named : name ≠ "") :
    (∀ (document : Document) (item : PathItem),
      document.schemas.contains (name ++ requestSuffix) = true →
      document.SolePath (ownPath service (strippedName name)) item →
        document.HasMode service name item) ∧
    ((∀ (document : Document) (item : PathItem),
      document.schemas.contains (name ++ requestSuffix) = true →
      document.SolePath (ownPath service name) item → document.HasMode service name item) ↔
        ¬ requestSuffix.toList <:+: name.toList) := by
  refine ⟨fun document item listed => hasMode_of_sole listed named, fun all occurs => ?_,
    fun absent document item listed sole => ?_⟩
  · have listed : (ofEndpoint service name).schemas.contains (name ++ requestSuffix) = true := by
      simp [ofEndpoint, Dict.contains, Dict.get?_insert]
    exact not_hasMode_ofEndpoint occurs (all _ _ listed (solePath_ofEndpoint service name))
  · have kept : strippedName name = name :=
      (replaceAll_empty_eq_self_iff requestSuffix_ne_nil).mpr absent
    exact hasMode_of_sole listed named (by rwa [kept])

def streamItem : PathItem := ⟨some (.ofList [("stream", .object [])])⟩

def audit : Document where
  schemas := .ofList [("LogRequest", {}), ("RequestLogRequest", {})]
  paths := .ofList [("/audit/Audit/Log", {}), ("/audit/audit/requestlog", streamItem)]

theorem audit_solePath_log : audit.SolePath (ownPath "audit" "Log") {} where
  exists_key := ⟨"/audit/Audit/Log", rfl, by rw [equalIgnoringCase_iff]; decide⟩
  unique := by
    simp only [equalIgnoringCase_iff]
    decide

theorem audit_hasMode :
    ("RequestLog" ≠ "" ∧ audit.HasMode "audit" "RequestLog" {}) ∧
      ("Log" ≠ "" ∧ audit.HasMode "audit" "Log" {}) := by
  have named : "RequestLog" ≠ "" ∧ "Log" ≠ "" := by decide
  refine ⟨⟨named.1, (hasMode_of_path named.1).1 _ _ rfl audit_solePath_log⟩, named.2, ?_⟩
  exact (hasMode_of_path named.2).2.mpr (by decide) _ _ rfl audit_solePath_log

/-- An endpoint may have a path of its own that streams, and yet be listed as one that does not. -/
theorem audit_requestLog_misread :
    audit.schemas.contains ("RequestLog" ++ requestSuffix) = true ∧
      audit.SolePath (ownPath "audit" "RequestLog") streamItem ∧
      streamItem.responses.any (·.contains "stream") = true ∧
      audit.isStream "audit" ("RequestLog" ++ requestSuffix) = .ok false ∧
      audit.endpoints "audit" = .ok [
        ⟨"Log", "LogRequest", "LogResponse", false, none⟩,
        ⟨"RequestLog", "RequestLogRequest", "RequestLogResponse", false, none⟩] := by
  have own : audit.SolePath (ownPath "audit" "RequestLog") streamItem := by
    refine ⟨⟨"/audit/audit/requestlog", rfl, ?_⟩, ?_⟩
    · rw [equalIgnoringCase_iff]
      decide
    · simp only [equalIgnoringCase_iff]
      decide
  have log : audit.isStream "audit" "LogRequest" = .ok false :=
    @isStream_of_sole _ _ "Log" _ audit_solePath_log
  have requestLog : audit.isStream "audit" "RequestLogRequest" = .ok false :=
    @isStream_of_sole _ _ "RequestLog" _ audit_solePath_log
  have listed : audit.endpoints "audit" = .ok [
      ⟨"Log", "LogRequest", "LogResponse", false, none⟩,
      ⟨"RequestLog", "RequestLogRequest", "RequestLogResponse", false, none⟩] := by
    have requests : audit.endpoints "audit" =
        [("LogRequest", "Log"), ("RequestLogRequest", "RequestLog")].mapM fun request =>
          audit.endpoint "audit" request.1 request.2 {} := rfl
    rw [requests, mapM_eq_ok_iff]
    simp only [List.map_cons, List.map_nil, endpoint, log, requestLog]
    rfl
  exact ⟨rfl, own, rfl, requestLog, listed⟩

end Document

end Typesmith.OpenApi
