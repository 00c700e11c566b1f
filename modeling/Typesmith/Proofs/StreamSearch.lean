import Typesmith.Proofs.Streaming

/-! # The search for streams

A document has a stream if one of its paths is one, and an endpoint streams if a path is found for it
that does. Letter case does not matter to the search for a path; so the two agree where each path is
that of some endpoint and no two paths differ in letter case only.
-/

namespace Typesmith

namespace OpenApi

open Text

namespace Document

variable {document : Document} {service requestType key path : String} {item : PathItem}
  {all : List Endpoint}

theorem equalIgnoringCase_endpointPath {other : String}
    (h : equalIgnoringCase service other = true) (requestType : String) :
    equalIgnoringCase (endpointPath service requestType) (endpointPath other requestType) = true := by
  have capital := Naming.equalIgnoringCase_capitalize h
  rw [equalIgnoringCase_iff] at h capital ⊢
  simp only [endpointPath, String.toList_append, List.map_append, h, capital]

def item? (document : Document) (path : String) : Option PathItem :=
  (document.paths.entries.reverse.find? (equalIgnoringCase ·.1 path)).map (·.2)

theorem toOption_isStream : (document.isStream service requestType).toOption =
    (document.item? (endpointPath service requestType)).map PathItem.streams := by
  rw [isStream, item?]
  cases document.paths.entries.reverse.find?
      (equalIgnoringCase ·.1 (endpointPath service requestType)) <;> rfl

theorem isStream_eq_ok_iff {streams : Bool} :
    document.isStream service requestType = .ok streams ↔
      (document.item? (endpointPath service requestType)).map PathItem.streams = some streams := by
  rw [← toOption_isStream]
  cases document.isStream service requestType <;> simp [Except.toOption]

theorem item?_congr {other : String} (h : equalIgnoringCase path other = true) :
    document.item? path = document.item? other := by
  rw [item?, item?]
  congr 2
  ext entry
  rw [equalIgnoringCase_right h]

theorem exists_of_item? (h : document.item? path = some item) :
    ∃ key, document.paths.get? key = some item ∧ equalIgnoringCase key path = true := by
  obtain ⟨⟨key, _⟩, found, rfl⟩ := Option.map_eq_some_iff.mp h
  have mem := List.mem_reverse.mp (List.mem_of_find?_eq_some found)
  have same := List.find?_some found
  exact ⟨key, Dict.mem_entries_iff.mp mem, same⟩

/-- No two paths differ in letter case only. -/
def CaseDistinct (document : Document) : Prop :=
  ∀ key ∈ document.paths.keys, ∀ other ∈ document.paths.keys,
    equalIgnoringCase key other = true → key = other

theorem CaseDistinct.item?_eq_some (distinct : document.CaseDistinct)
    (found : document.paths.get? key = some item) (same : equalIgnoringCase key path = true) :
    document.item? path = some item := by
  have sole : document.SolePath path item := by
    refine ⟨⟨key, found, same⟩, ?_⟩
    intro former mem other mem' same same'
    refine distinct former mem other mem' ?_
    rwa [equalIgnoringCase_right same']
  obtain ⟨_, found⟩ := sole.find?_eq
  rw [item?, found]
  rfl

theorem CaseDistinct.isStream_eq (distinct : document.CaseDistinct)
    (found : document.paths.get? key = some item)
    (same : equalIgnoringCase key (endpointPath service requestType) = true) :
    document.isStream service requestType = .ok item.streams := by
  rw [isStream_eq_ok_iff, distinct.item?_eq_some found same]
  rfl

theorem CaseDistinct.item?_eq_some_iff (distinct : document.CaseDistinct) :
    document.item? path = some item ↔
      ∃ key, document.paths.get? key = some item ∧ equalIgnoringCase key path = true := by
  constructor
  · exact exists_of_item?
  · rintro ⟨key, found, same⟩
    exact distinct.item?_eq_some found same

/-- The document with its paths written in another way. -/
def rewritePaths (document : Document) (write : String → String) : Document :=
  { document with
    paths := .ofList (document.paths.entries.map fun entry => (write entry.1, entry.2)) }

section

variable {write : String → String} (distinct : document.CaseDistinct)
  (recased : ∀ key ∈ document.paths.keys, equalIgnoringCase (write key) key = true)
include distinct recased

theorem write_injective {other : String} (mem : key ∈ document.paths.keys)
    (mem' : other ∈ document.paths.keys)
    (same : equalIgnoringCase (write key) (write other) = true) : key = other := by
  refine distinct key mem other mem' ?_
  rwa [equalIgnoringCase_left (recased key mem), equalIgnoringCase_right (recased other mem')] at same

theorem get?_rewritePaths_iff :
    (document.rewritePaths write).paths.get? key = some item ↔
      ∃ former, document.paths.get? former = some item ∧ write former = key := by
  have nodup : ((document.paths.entries.map fun entry => (write entry.1, entry.2)).map
      (·.1)).Nodup := by
    rw [List.map_map]
    have written : (document.paths.keys.map write).Nodup := by
      refine List.Nodup.map_on ?_ document.paths.nodup_keys
      intro key mem other mem' same
      exact write_injective distinct recased mem mem' (by rw [same, equalIgnoringCase_self])
    rwa [Dict.keys, List.map_map] at written
  rw [← Dict.mem_entries_iff]
  refine (mem_byName_iff nodup).trans ?_
  rw [List.mem_map]
  constructor
  · rintro ⟨⟨former, item⟩, mem, same⟩
    cases same
    exact ⟨former, Dict.mem_entries_iff.mp mem, rfl⟩
  · rintro ⟨former, found, rfl⟩
    exact ⟨(former, item), Dict.mem_entries_of_get? found, rfl⟩

theorem caseDistinct_rewritePaths : (document.rewritePaths write).CaseDistinct := by
  intro key mem other mem' same
  obtain ⟨item, found⟩ := Dict.mem_keys_iff.mp mem
  obtain ⟨item', found'⟩ := Dict.mem_keys_iff.mp mem'
  obtain ⟨former, kept, rfl⟩ := (get?_rewritePaths_iff distinct recased).mp found
  obtain ⟨former', kept', rfl⟩ := (get?_rewritePaths_iff distinct recased).mp found'
  rw [write_injective distinct recased (Dict.mem_keys_of_get? kept)
    (Dict.mem_keys_of_get? kept') same]

/-- A path is found for the same texts in whatever letter case it is written. -/
theorem item?_rewritePaths : (document.rewritePaths write).item? path = document.item? path := by
  ext item
  rw [(caseDistinct_rewritePaths distinct recased).item?_eq_some_iff, distinct.item?_eq_some_iff]
  constructor
  · rintro ⟨key, found, same⟩
    obtain ⟨former, kept, rfl⟩ := (get?_rewritePaths_iff distinct recased).mp found
    rw [equalIgnoringCase_left (recased former (Dict.mem_keys_of_get? kept))] at same
    exact ⟨former, kept, same⟩
  · rintro ⟨key, found, same⟩
    rw [← equalIgnoringCase_left (recased key (Dict.mem_keys_of_get? found))] at same
    exact ⟨write key, (get?_rewritePaths_iff distinct recased).mpr ⟨key, found, rfl⟩, same⟩

end

theorem hasStream_iff : document.hasStream = true ↔
    ∃ key item, document.paths.get? key = some item ∧ item.streams = true := by
  simp only [hasStream, Dict.values, List.any_map, List.any_eq_true, ← Dict.mem_entries_iff]
  constructor
  · rintro ⟨⟨key, item⟩, mem, streams⟩
    exact ⟨key, item, mem, streams⟩
  · rintro ⟨key, item, mem, streams⟩
    exact ⟨(key, item), mem, streams⟩

theorem hasStream_of_endpoint (h : document.endpoints service = .ok all)
    (streaming : ∃ endpoint ∈ all, endpoint.streaming = true) : document.hasStream = true := by
  obtain ⟨endpoint, mem, streaming⟩ := streaming
  have mode := isStream_eq_ok_iff.mp (of_mem_endpoints h mem).2
  rw [streaming] at mode
  obtain ⟨item, found, streams⟩ := Option.map_eq_some_iff.mp mode
  obtain ⟨key, found, -⟩ := exists_of_item? found
  exact hasStream_iff.mpr ⟨key, item, found, streams⟩

/-- Every path is one that is looked up for an endpoint. -/
def Serves (document : Document) (service : String) (all : List Endpoint) : Prop :=
  ∀ key ∈ document.paths.keys, ∃ endpoint ∈ all,
    equalIgnoringCase key (endpointPath service endpoint.requestType) = true

theorem endpoint_of_hasStream (h : document.endpoints service = .ok all)
    (distinct : document.CaseDistinct) (serves : document.Serves service all)
    (stream : document.hasStream = true) : ∃ endpoint ∈ all, endpoint.streaming = true := by
  obtain ⟨key, item, found, streams⟩ := hasStream_iff.mp stream
  obtain ⟨endpoint, mem, same⟩ := serves key (Dict.mem_keys_of_get? found)
  have mode := (of_mem_endpoints h mem).2
  rw [distinct.isStream_eq found same, streams] at mode
  exact ⟨endpoint, mem, (Except.ok.inj mode).symm⟩

/-- The two searches for streams agree, and neither depends on letter case. -/
theorem stream_detection (document : Document) (service : String) :
    (∀ all, document.endpoints service = .ok all →
      ((∃ endpoint ∈ all, endpoint.streaming = true) → document.hasStream = true) ∧
      (document.CaseDistinct → document.Serves service all →
        (document.hasStream = true ↔ ∃ endpoint ∈ all, endpoint.streaming = true))) ∧
    (∀ other, equalIgnoringCase other service = true → ∀ requestType,
      (document.isStream other requestType).toOption =
        (document.isStream service requestType).toOption) ∧
    (document.CaseDistinct → ∀ write : String → String,
      (∀ key ∈ document.paths.keys, equalIgnoringCase (write key) key = true) → ∀ requestType,
        ((document.rewritePaths write).isStream service requestType).toOption =
          (document.isStream service requestType).toOption) := by
  refine ⟨?_, ?_, ?_⟩
  · intro all h
    refine ⟨hasStream_of_endpoint h, fun distinct serves => ?_⟩
    constructor
    · exact endpoint_of_hasStream h distinct serves
    · exact hasStream_of_endpoint h
  · intro other same requestType
    rw [toOption_isStream, toOption_isStream,
      item?_congr (equalIgnoringCase_endpointPath same requestType)]
  · intro distinct write recased requestType
    rw [toOption_isStream, toOption_isStream, item?_rewritePaths distinct recased]

def chat : Document where
  schemas := .ofList [("ListenRequest", {}), ("SendRequest", {})]
  paths := .ofList [("/CHAT/chat/send", {}), ("/chat/Chat/Listen", streamItem)]

def chatEndpoints : List Endpoint := [
  ⟨"Listen", "ListenRequest", "ListenResponse", true, none⟩,
  ⟨"Send", "SendRequest", "SendResponse", false, none⟩]

/-- Writes the first path so that it comes after the second one. -/
def lowered (key : String) : String :=
  if key = "/CHAT/chat/send" then "/chat/chat/SEND" else key

theorem chat_caseDistinct : chat.CaseDistinct := by
  unfold CaseDistinct
  simp only [equalIgnoringCase_iff]
  decide

theorem chat_endpoints : chat.endpoints "chat" = .ok chatEndpoints := by
  have listen : chat.isStream "chat" "ListenRequest" = .ok true := by
    have found : chat.paths.get? "/chat/Chat/Listen" = some streamItem := rfl
    refine chat_caseDistinct.isStream_eq found ?_
    rw [equalIgnoringCase_iff]
    decide
  have send : chat.isStream "chat" "SendRequest" = .ok false := by
    have found : chat.paths.get? "/CHAT/chat/send" = some {} := rfl
    refine chat_caseDistinct.isStream_eq found ?_
    rw [equalIgnoringCase_iff]
    decide
  have requests : chat.endpoints "chat" =
      [("ListenRequest", "Listen"), ("SendRequest", "Send")].mapM fun request =>
        chat.endpoint "chat" request.1 request.2 {} := rfl
  rw [requests, mapM_eq_ok_iff]
  simp only [List.map_cons, List.map_nil, endpoint, listen, send]
  rfl

theorem chat_stream_detection :
    (chat.endpoints "chat" = .ok chatEndpoints ∧ chat.CaseDistinct ∧
      chat.Serves "chat" chatEndpoints ∧ (∃ endpoint ∈ chatEndpoints, endpoint.streaming = true) ∧
      chat.hasStream = true) ∧
    (equalIgnoringCase "cHAT" "chat" = true ∧
      (chat.isStream "cHAT" "ListenRequest").toOption =
        (chat.isStream "chat" "ListenRequest").toOption) ∧
    ((∀ key ∈ chat.paths.keys, equalIgnoringCase (lowered key) key = true) ∧
      (chat.rewritePaths lowered).paths.keys = ["/chat/Chat/Listen", "/chat/chat/SEND"] ∧
      ((chat.rewritePaths lowered).isStream "chat" "SendRequest").toOption =
        (chat.isStream "chat" "SendRequest").toOption) := by
  have serves : chat.Serves "chat" chatEndpoints := by
    unfold Serves
    simp only [equalIgnoringCase_iff]
    decide
  have streaming : ∃ endpoint ∈ chatEndpoints, endpoint.streaming = true := by decide
  have service : equalIgnoringCase "cHAT" "chat" = true := by
    rw [equalIgnoringCase_iff]
    decide
  have recased : ∀ key ∈ chat.paths.keys, equalIgnoringCase (lowered key) key = true := by
    simp only [equalIgnoringCase_iff]
    decide
  obtain ⟨agree, services, paths⟩ := stream_detection chat "chat"
  have stream := ((agree _ chat_endpoints).2 chat_caseDistinct serves).mpr streaming
  refine ⟨⟨chat_endpoints, chat_caseDistinct, serves, streaming, stream⟩,
    ⟨service, services _ service _⟩, recased, rfl, paths chat_caseDistinct _ recased _⟩

end Document

end OpenApi

end Typesmith
