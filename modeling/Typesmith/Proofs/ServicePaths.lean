import Mathlib.Data.Set.Function
import Typesmith.Config
import Typesmith.Proofs.Replace

/-! # Paths of services

A template with a place for the service name gives no two services the same path, and one without
gives all of them the same. A configuration is valid only if each of its templates has such a place.
-/

namespace Typesmith

namespace Path

def IsAbsolute (path : String) : Prop :=
  path.toList.head? = some '/'

instance (path : String) : Decidable (IsAbsolute path) :=
  inferInstanceAs (Decidable (_ = _))

variable {directory path other : String}

theorem join_of_isAbsolute (h : IsAbsolute path) : join directory path = path := by
  obtain ⟨rest, split⟩ := List.head?_eq_some_iff.mp h
  simp only [join, split]

theorem join_of_not_isAbsolute (h : ¬ IsAbsolute path) :
    join directory path = join directory "" ++ path := by
  unfold join
  split
  · next rest split =>
    rw [IsAbsolute, split] at h
    exact absurd rfl h
  · generalize directory.toList.getLast? = last
    split <;> simp

theorem join_inj (same : IsAbsolute path ↔ IsAbsolute other) :
    join directory path = join directory other ↔ path = other := by
  constructor
  · intro joined
    by_cases absolute : IsAbsolute path
    · rwa [join_of_isAbsolute absolute, join_of_isAbsolute (same.mp absolute)] at joined
    · rwa [join_of_not_isAbsolute absolute, join_of_not_isAbsolute (mt same.mpr absolute),
        String.append_right_inj] at joined
  · rintro rfl
    rfl

end Path

namespace Config

variable {config : Config} {template name key : String}

/-- The names which can stand at the front of a relative path. -/
def serviceNames : Set String :=
  {name | name ≠ "" ∧ ¬ Path.IsAbsolute name}

instance (name : String) : Decidable (name ∈ serviceNames) :=
  inferInstanceAs (Decidable (_ ∧ _))

theorem placeholder_ne_nil : servicePlaceholder.toList ≠ [] := by
  decide

theorem isAbsolute_replaceAll_iff (named : name ∈ serviceNames) :
    Path.IsAbsolute (Text.replaceAll servicePlaceholder name template) ↔
      Path.IsAbsolute template := by
  have nonempty : name.toList ≠ [] := mt String.toList_eq_nil_iff.mp named.1
  have relative : servicePlaceholder.toList.head? ≠ some '/' := by decide
  rw [Path.IsAbsolute, Path.IsAbsolute, Text.replaceAll, String.toList_ofList,
    Text.head?_intercalate_eq_some_iff nonempty named.2,
    ← Text.intercalate_pieces (s := template) placeholder_ne_nil,
    Text.head?_intercalate_eq_some_iff placeholder_ne_nil relative]

theorem injOn_expand (occurs : Text.occursIn servicePlaceholder template = true) :
    serviceNames.InjOn (config.expand template) := by
  intro first named second named' same
  rwa [expand, expand, Path.join_inj, Text.replaceAll_inj occurs] at same
  rw [isAbsolute_replaceAll_iff named, isAbsolute_replaceAll_iff named']

theorem not_injOn_expand (absent : Text.occursIn servicePlaceholder template = false) :
    ¬ serviceNames.InjOn (config.expand template) := by
  intro separate
  have same : config.expand template "a" = config.expand template "b" := by
    rw [expand, expand, Text.replaceAll_of_not_occursIn placeholder_ne_nil absent,
      Text.replaceAll_of_not_occursIn placeholder_ne_nil absent]
  exact absurd (separate (by decide) (by decide) same) (by decide)

/-- A template is accepted exactly if it keeps all services apart. -/
theorem checkTemplate_eq_ok_iff :
    checkTemplate key template = .ok () ↔ serviceNames.InjOn (config.expand template) := by
  have accepted : checkTemplate key template = .ok () ↔
      Text.occursIn servicePlaceholder template = true := by
    unfold checkTemplate
    split
    · next empty =>
      have nowhere : Text.occursIn servicePlaceholder "" = false := by decide
      rw [String.isEmpty_iff.mp empty, nowhere]
      simp
    · cases Text.occursIn servicePlaceholder template <;> simp
  rw [accepted]
  constructor
  · exact injOn_expand
  · intro separate
    by_contra absent
    exact not_injOn_expand (Bool.eq_false_iff.mpr absent) separate

theorem bind_eq_ok_iff {ε α β : Type} {first : Except ε α} {next : α → Except ε β} {result : β} :
    first >>= next = .ok result ↔ ∃ value, first = .ok value ∧ next value = .ok result := by
  cases first <;> simp [bind, Except.bind]

theorem checks_of_validate (valid : config.validate = .ok ()) :
    checkTemplate "proto_path" config.protoPath = .ok () ∧
      checkTemplate "openapi_path" config.openApiPath = .ok () ∧
      checkTemplate "examples_path" config.examplesPath = .ok () := by
  have checked : config.check = .ok () := by
    cases found : config.check with
    | ok => rfl
    | error failure =>
      rw [validate, found] at valid
      cases valid
  obtain ⟨_, proto, checked⟩ := bind_eq_ok_iff.mp checked
  obtain ⟨_, openApi, checked⟩ := bind_eq_ok_iff.mp checked
  obtain ⟨_, examples, -⟩ := bind_eq_ok_iff.mp checked
  exact ⟨proto, openApi, examples⟩

/-- Under a valid configuration different services have different paths, for each kind of file. -/
theorem injOn_paths (valid : config.validate = .ok ()) :
    serviceNames.InjOn config.protoPathFor ∧ serviceNames.InjOn config.openApiPathFor ∧
      serviceNames.InjOn config.examplesPathFor := by
  obtain ⟨proto, openApi, examples⟩ := checks_of_validate valid
  exact ⟨checkTemplate_eq_ok_iff.mp proto, checkTemplate_eq_ok_iff.mp openApi,
    checkTemplate_eq_ok_iff.mp examples⟩

/-- Templates that name the service twice, without a separator and from the root. -/
def doubled : Config where
  servicesDir := "services"
  protoPath := "\x7bservice\x7d\x7bservice\x7d"
  openApiPath := "/\x7bservice\x7d/\x7bservice\x7d.json"

theorem doubled_paths_ne :
    doubled.validate = .ok () ∧
      "\x7bservice\x7d" ∈ serviceNames ∧ "a/\x7bservice\x7d" ∈ serviceNames ∧
      doubled.protoPathFor "\x7bservice\x7d" ≠ doubled.protoPathFor "a/\x7bservice\x7d" ∧
      doubled.openApiPathFor "\x7bservice\x7d" ≠ doubled.openApiPathFor "a/\x7bservice\x7d" ∧
      doubled.examplesPathFor "\x7bservice\x7d" ≠ doubled.examplesPathFor "a/\x7bservice\x7d" := by
  have valid : doubled.validate = .ok () := by decide +kernel
  have named : "\x7bservice\x7d" ∈ serviceNames := by decide
  have named' : "a/\x7bservice\x7d" ∈ serviceNames := by decide
  have different : "\x7bservice\x7d" ≠ "a/\x7bservice\x7d" := by decide
  obtain ⟨proto, openApi, examples⟩ := injOn_paths valid
  exact ⟨valid, named, named', proto.ne named named' different, openApi.ne named named' different,
    examples.ne named named' different⟩

end Config

end Typesmith
