import Mathlib.Data.List.Nodup
import Typesmith.Dict

/-! # Entries by name

Sorting by name adds no entry, and keeps what a function makes of each one. Lists with the same
names can be compared name by name.
-/

namespace Typesmith

variable {α : Type u} {β : Type v} {name : String} {value : α} {entries : List (String × α)}

theorem Increasing.of_names {others : List (String × β)} (h : Increasing entries)
    (sub : (others.map (·.1)).Sublist (entries.map (·.1))) : Increasing others :=
  List.pairwise_map.mp ((List.pairwise_map.mpr h).sublist sub)

theorem mem_of_mem_byName {entry : String × α} (h : entry ∈ byName entries) : entry ∈ entries := by
  suffices ∀ sorted : List (String × α), ∀ entry,
      entry ∈ entries.foldl (fun sorted entry => insertByName entry.1 entry.2 sorted) sorted →
        entry ∈ entries ∨ entry ∈ sorted by
    simpa using this [] entry h
  clear h
  induction entries with
  | nil => exact fun _ _ h => .inr h
  | cons head rest ih =>
    intro sorted entry h
    rcases ih _ entry h with h | h
    · exact .inl (List.mem_cons_of_mem _ h)
    · rcases mem_insertByName h with rfl | h
      · exact .inl List.mem_cons_self
      · exact .inr h

theorem insertByName_map (f : String × α → β) :
    insertByName name (f (name, value)) (entries.map fun entry => (entry.1, f entry)) =
      (insertByName name value entries).map fun entry => (entry.1, f entry) := by
  induction entries with
  | nil => rfl
  | cons head rest ih =>
    simp only [List.map_cons, insertByName, ih]
    split
    · rfl
    · split <;> rfl

theorem byName_map (f : String × α → β) :
    byName (entries.map fun entry => (entry.1, f entry)) =
      (byName entries).map fun entry => (entry.1, f entry) := by
  suffices ∀ sorted : List (String × α),
      (entries.map fun entry => (entry.1, f entry)).foldl
          (fun sorted entry => insertByName entry.1 entry.2 sorted)
          (sorted.map fun entry => (entry.1, f entry)) =
        (entries.foldl (fun sorted entry => insertByName entry.1 entry.2 sorted) sorted).map
          fun entry => (entry.1, f entry) from this []
  induction entries with
  | nil => exact fun _ => rfl
  | cons head rest ih =>
    intro sorted
    rw [List.map_cons, List.foldl_cons, List.foldl_cons, ← ih, ← insertByName_map]

theorem Dict.mem_entries_of_get? {dict : Dict α} (h : dict.get? name = some value) :
    (name, value) ∈ dict.entries := by
  unfold get? at h
  generalize dict.entries = entries at h
  induction entries with
  | nil => simp at h
  | cons head rest ih =>
    rw [List.lookup_cons] at h
    split at h
    · next eq =>
      cases h
      cases beq_iff_eq.mp eq
      exact List.mem_cons_self
    · exact List.mem_cons_of_mem _ (ih h)

theorem Dict.get?_of_mem_entries {dict : Dict α} (mem : (name, value) ∈ dict.entries) :
    dict.get? name = some value := by
  obtain ⟨entries, increasing⟩ := dict
  unfold get?
  induction entries with
  | nil => cases mem
  | cons head rest ih =>
    obtain ⟨first, later⟩ := List.pairwise_cons.mp increasing
    rw [List.lookup_cons]
    rcases List.mem_cons.mp mem with rfl | mem
    · simp
    · have before : head.1 < name := first _ mem
      have other : (name == head.1) = false :=
        beq_false_of_ne fun eq => String.lt_irrefl _ (eq ▸ before)
      rw [other]
      exact ih later mem

theorem Dict.mem_entries_iff {dict : Dict α} :
    (name, value) ∈ dict.entries ↔ dict.get? name = some value :=
  ⟨get?_of_mem_entries, mem_entries_of_get?⟩

theorem Increasing.nodup (h : Increasing entries) : entries.Nodup :=
  List.Pairwise.imp (fun before same => String.ne_of_lt before (congrArg Prod.fst same)) h

theorem Dict.ext_get? {dict other : Dict α} (h : ∀ name, dict.get? name = other.get? name) :
    dict = other := by
  have perm : dict.entries.Perm other.entries := by
    rw [List.perm_ext_iff_of_nodup dict.increasing.nodup other.increasing.nodup]
    rintro ⟨name, value⟩
    rw [mem_entries_iff, mem_entries_iff, h]
  have same : dict.entries = other.entries :=
    perm.eq_of_pairwise (fun _ _ _ _ before after =>
      absurd (String.lt_trans before after) (String.lt_irrefl _)) dict.increasing other.increasing
  cases dict
  cases other
  congr

theorem lookup_cons_eq {other : String} :
    ((name, value) :: entries).lookup other =
      if other = name then some value else entries.lookup other := by
  rw [List.lookup_cons]
  by_cases same : other = name
  · simp [same]
  · simp [same, beq_false_of_ne same]

theorem lookup_insertByName {other : String} :
    (insertByName name value entries).lookup other =
      if other = name then some value else entries.lookup other := by
  induction entries with
  | nil => exact lookup_cons_eq
  | cons head rest ih =>
    obtain ⟨first, kept⟩ := head
    unfold insertByName
    split
    · exact lookup_cons_eq
    · split
      · next after =>
        have apart : first ≠ name := String.ne_of_lt after
        rw [lookup_cons_eq, lookup_cons_eq, ih]
        by_cases here : other = first
        · simp [here, apart]
        · simp [here]
      · next before after =>
        have same : name = first := eq_of_not_lt before after
        rw [lookup_cons_eq, lookup_cons_eq, ← same]
        split <;> rfl

theorem lookup_byName (entries : List (String × α)) :
    (byName entries).lookup name = entries.reverse.lookup name := by
  suffices ∀ sorted : List (String × α),
      (entries.foldl (fun sorted entry => insertByName entry.1 entry.2 sorted) sorted).lookup name =
        (entries.reverse ++ sorted).lookup name by
    rw [byName, this, List.append_nil]
  induction entries with
  | nil => exact fun _ => rfl
  | cons head rest ih =>
    intro sorted
    rw [List.foldl_cons, ih, List.reverse_cons, List.append_assoc, List.lookup_append,
      List.lookup_append, lookup_insertByName, List.singleton_append, lookup_cons_eq]

theorem mem_byName_iff {entry : String × α} (nodup : (entries.map (·.1)).Nodup) :
    entry ∈ byName entries ↔ entry ∈ entries := by
  constructor
  · exact mem_of_mem_byName
  · intro mem
    obtain ⟨after, before, split⟩ := List.append_of_mem (List.mem_reverse.mpr mem)
    have apart : ∀ other ∈ after, entry.1 ≠ other.1 := by
      rw [← List.nodup_reverse, ← List.map_reverse, split, List.map_append,
        List.nodup_append] at nodup
      intro other here same
      exact nodup.2.2 other.1 (List.mem_map_of_mem here) entry.1 (by simp) same.symm
    have found : (Dict.ofList entries).get? entry.1 = some entry.2 := by
      rw [Dict.get?, Dict.ofList, lookup_byName, List.lookup_eq_some_iff]
      exact ⟨after, before, split, fun other here => bne_iff_ne.mpr (apart other here)⟩
    exact Dict.mem_entries_of_get? found

theorem lookup_filter (p : String → Bool) :
    (entries.filter fun entry => p entry.1).lookup name =
      if p name then entries.lookup name else none := by
  induction entries with
  | nil => simp
  | cons head rest ih =>
    obtain ⟨first, kept⟩ := head
    rw [List.filter_cons]
    by_cases here : name = first
    · subst here
      cases passes : p name <;> simp [passes, ih]
    · cases p first <;> simp [lookup_cons_eq, here, ih]

theorem byName_singleton (entry : String × α) : byName [entry] = [entry] := rfl

theorem byName_filter (p : String → Bool) (entries : List (String × α)) :
    byName (entries.filter fun entry => p entry.1) =
      (byName entries).filter fun entry => p entry.1 := by
  have increasing : Increasing ((byName entries).filter fun entry => p entry.1) :=
    (increasing_byName entries).of_names (List.filter_sublist.map _)
  have same : Dict.ofList (entries.filter fun entry => p entry.1) = ⟨_, increasing⟩ := by
    refine Dict.ext_get? fun name => ?_
    simp only [Dict.get?, Dict.ofList, lookup_byName, lookup_filter, ← List.filter_reverse]
  exact congrArg Dict.entries same

theorem Dict.get?_insert {dict : Dict α} {other : String} :
    (dict.insert name value).get? other = if other = name then some value else dict.get? other :=
  lookup_insertByName

theorem Dict.get?_ofList_map {f : α → β} :
    (Dict.ofList (entries.map fun entry => (entry.1, f entry.2))).get? name =
      ((Dict.ofList entries).get? name).map f := by
  change (byName (entries.map fun entry => (entry.1, f entry.2))).lookup name =
    ((byName entries).lookup name).map f
  rw [byName_map fun entry => f entry.2]
  generalize byName entries = sorted
  induction sorted with
  | nil => rfl
  | cons head rest ih =>
    rw [List.map_cons, lookup_cons_eq, lookup_cons_eq, ih]
    split <;> rfl

@[simp] theorem Dict.get?_empty : (Dict.empty : Dict α).get? name = none := rfl

theorem Dict.pairwise_keys (dict : Dict α) : dict.keys.Pairwise (· < ·) :=
  List.pairwise_map.mpr dict.increasing

theorem Dict.mem_keys_of_get? {dict : Dict α} (h : dict.get? name = some value) :
    name ∈ dict.keys :=
  List.mem_map_of_mem (mem_entries_of_get? h)

theorem Dict.mem_keys_iff {dict : Dict α} :
    name ∈ dict.keys ↔ ∃ value, dict.get? name = some value := by
  constructor
  · intro mem
    obtain ⟨⟨_, value⟩, held, rfl⟩ := List.mem_map.mp mem
    exact ⟨value, get?_of_mem_entries held⟩
  · rintro ⟨value, found⟩
    exact mem_keys_of_get? found

theorem Dict.nodup_keys (dict : Dict α) : dict.keys.Nodup :=
  dict.pairwise_keys.imp String.ne_of_lt

theorem Dict.mem_keys_of_contains {dict : Dict α} (h : dict.contains name = true) :
    name ∈ dict.keys := by
  obtain ⟨value, found⟩ := Option.isSome_iff_exists.mp h
  exact mem_keys_of_get? found

section

variable {R : α → β → Prop} {others : List (String × β)}

/-- Entries have the same names in the same order, and related values. -/
def Parallel (R : α → β → Prop) : List (String × α) → List (String × β) → Prop :=
  List.Forall₂ fun entry other => entry.1 = other.1 ∧ R entry.2 other.2

theorem Parallel.names (h : Parallel R entries others) :
    others.map (·.1) = entries.map (·.1) := by
  induction h with
  | nil => rfl
  | cons head _ ih => rw [List.map_cons, List.map_cons, head.1, ih]

theorem Parallel.map_eq {γ : Type w} {f : String × α → γ} {g : String × β → γ}
    (h : Parallel R entries others)
    (eq : ∀ name value value', R value value' → g (name, value') = f (name, value)) :
    others.map g = entries.map f := by
  induction h with
  | nil => rfl
  | @cons entry other _ _ head _ ih =>
    obtain ⟨name, value⟩ := entry
    obtain ⟨name', value'⟩ := other
    obtain ⟨rfl, related⟩ := head
    rw [List.map_cons, List.map_cons, eq _ _ _ related, ih]

theorem Parallel.lookup (h : Parallel R entries others) (name : String) :
    (entries.lookup name = none ∧ others.lookup name = none) ∨
      ∃ value value', R value value' ∧ entries.lookup name = some value ∧
        others.lookup name = some value' := by
  induction h with
  | nil => exact .inl ⟨rfl, rfl⟩
  | @cons entry other _ _ head _ ih =>
    rw [List.lookup_cons, List.lookup_cons, head.1]
    cases name == other.1 with
    | true => exact .inr ⟨_, _, head.2, rfl, rfl⟩
    | false => exact ih

end

section

variable {f : α → α}

def modifyByName (name : String) (f : α → α) (entries : List (String × α)) : List (String × α) :=
  entries.map fun entry => (entry.1, if entry.1 = name then f entry.2 else entry.2)

theorem byName_modifyByName :
    byName (modifyByName name f entries) = modifyByName name f (byName entries) :=
  byName_map _

theorem lookup_modifyByName :
    (modifyByName name f entries).lookup name = (entries.lookup name).map f := by
  induction entries with
  | nil => rfl
  | cons entry rest ih =>
    obtain ⟨other, value⟩ := entry
    unfold modifyByName at ih ⊢
    rw [List.map_cons, List.lookup_cons, List.lookup_cons]
    by_cases here : other = name
    · simp [here]
    · rw [beq_false_of_ne (Ne.symm here)]
      exact ih

theorem Increasing.modifyByName (h : Increasing entries) :
    Increasing (modifyByName name f entries) :=
  h.of_names (by simp [Typesmith.modifyByName, Function.comp_def])

def Dict.modify (dict : Dict α) (name : String) (f : α → α) : Dict α :=
  ⟨modifyByName name f dict.entries, dict.increasing.modifyByName⟩

theorem parallel_modifyByName {R : α → α → Prop} (same : ∀ value, R value value)
    (changed : ∀ value, (name, value) ∈ entries → R value (f value)) :
    Parallel R entries (modifyByName name f entries) := by
  refine List.forall₂_map_right_iff.mpr (List.forall₂_same.mpr fun entry mem => ⟨rfl, ?_⟩)
  obtain ⟨other, value⟩ := entry
  dsimp only
  split
  · next eq => exact changed value (eq ▸ mem)
  · exact same value

end

end Typesmith
