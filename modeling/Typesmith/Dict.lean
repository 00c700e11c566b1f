/-! # Dictionaries

A dictionary lists its entries by name in byte order, each name once. The order of strings by code
point is their order by UTF-8 bytes.
-/

namespace Typesmith

/-- Puts an entry in its place by name, replacing the entry of that name. -/
def insertByName {α : Type u} (name : String) (value : α) : List (String × α) → List (String × α)
  | [] => [(name, value)]
  | entry :: rest =>
    if name < entry.1 then (name, value) :: entry :: rest
    else if entry.1 < name then entry :: insertByName name value rest
    else (name, value) :: rest

/-- The entries in order of name; of several entries of one name the last counts. -/
def byName {α : Type u} (entries : List (String × α)) : List (String × α) :=
  entries.foldl (fun sorted entry => insertByName entry.1 entry.2 sorted) []

/-- Names increase strictly along the list. -/
def Increasing {α : Type u} (entries : List (String × α)) : Prop :=
  entries.Pairwise fun a b => a.1 < b.1

theorem eq_of_not_lt {a b : String} (h : ¬ a < b) (h' : ¬ b < a) : a = b :=
  String.le_antisymm (String.not_lt.1 h') (String.not_lt.1 h)

section

variable {α : Type u} {name : String} {value : α} {entries : List (String × α)}

theorem mem_insertByName {entry : String × α} (h : entry ∈ insertByName name value entries) :
    entry = (name, value) ∨ entry ∈ entries := by
  induction entries with
  | nil => simpa [insertByName] using h
  | cons head rest ih =>
    unfold insertByName at h
    split at h
    · simpa using h
    · split at h
      · rcases List.mem_cons.1 h with rfl | h
        · simp
        · rcases ih h with rfl | h <;> simp_all
      · rcases List.mem_cons.1 h with rfl | h <;> simp_all

theorem Increasing.insertByName (h : Increasing entries) :
    Increasing (insertByName name value entries) := by
  unfold Increasing at h ⊢
  induction entries with
  | nil => simp [Typesmith.insertByName]
  | cons head rest ih =>
    obtain ⟨first, later⟩ := List.pairwise_cons.1 h
    unfold Typesmith.insertByName
    split
    · rename_i hlt
      refine List.pairwise_cons.2 ⟨fun entry mem => ?_, h⟩
      rcases List.mem_cons.1 mem with rfl | mem
      · exact hlt
      · exact String.lt_trans hlt (first _ mem)
    · split
      · rename_i hlt
        refine List.pairwise_cons.2 ⟨fun entry mem => ?_, ih later⟩
        rcases mem_insertByName mem with rfl | mem
        · exact hlt
        · exact first _ mem
      · rename_i hle hge
        have same : name = head.1 := eq_of_not_lt hle hge
        exact List.pairwise_cons.2 ⟨fun entry mem => same ▸ first _ mem, later⟩

theorem increasing_byName (entries : List (String × α)) : Increasing (byName entries) := by
  suffices ∀ sorted : List (String × α), Increasing sorted →
      Increasing (entries.foldl (fun sorted entry => insertByName entry.1 entry.2 sorted) sorted) from
    this [] List.Pairwise.nil
  induction entries with
  | nil => exact fun _ h => h
  | cons head rest ih => exact fun _ h => ih _ h.insertByName

end

structure Dict (α : Type u) where
  entries : List (String × α)
  increasing : Increasing entries := by exact List.Pairwise.nil

namespace Dict

variable {α : Type u} {β : Type v}

def empty : Dict α := { entries := [] }

instance : Inhabited (Dict α) := ⟨empty⟩

def ofList (entries : List (String × α)) : Dict α :=
  ⟨byName entries, increasing_byName entries⟩

def insert (dict : Dict α) (name : String) (value : α) : Dict α :=
  ⟨insertByName name value dict.entries, dict.increasing.insertByName⟩

def erase (dict : Dict α) (name : String) : Dict α :=
  ⟨dict.entries.filter (·.1 != name), List.Pairwise.filter _ dict.increasing⟩

def get? (dict : Dict α) (name : String) : Option α :=
  dict.entries.lookup name

def contains (dict : Dict α) (name : String) : Bool :=
  (dict.get? name).isSome

def keys (dict : Dict α) : List String :=
  dict.entries.map (·.1)

def values (dict : Dict α) : List α :=
  dict.entries.map (·.2)

def size (dict : Dict α) : Nat :=
  dict.entries.length

end Dict

end Typesmith
