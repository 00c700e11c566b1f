import Typesmith.OpenApi.Document
import Typesmith.Proofs.Dict
import Typesmith.Proofs.Replace

/-! # Chains of references

A reference leads to the schema that it names, which may be a reference itself. Following references
stays on this chain, and comes to its end if that is near enough. In a document with no more schemas
than references are followed, only a chain without an end is left before its end: one that comes
back to a schema.
-/

namespace Typesmith.OpenApi.Document

structure LeadsTo (document : Document) (node : Node) (name : String) (next : Node) : Prop where
  reference : node.reference = some ("#/components/schemas/" ++ name)
  schema : document.schemas.get? name = some next

def LeadsOn (document : Document) (node : Node) : Prop :=
  ∃ name next, document.LeadsTo node name next

/-- References lead from a node to another one, by way of the schemas of some names. -/
inductive Chain (document : Document) : Node → List String → Node → Prop

  | here {node} : Chain document node [] node

  | hop {node name next names last} : document.LeadsTo node name next →
      Chain document next names last → Chain document node (name :: names) last

/-- The references of a node come back to a schema that they have led to before. -/
def Cycles (document : Document) (node : Node) : Prop :=
  ∃ names last, document.Chain node names last ∧ ¬ names.Nodup

variable {document : Document} {node next next' last last' : Node} {name name' : String}
  {names names' : List String} {limit : Nat}

theorem target?_eq_some_iff :
    document.target? node = some next ↔ ∃ name, document.LeadsTo node name next := by
  simp only [target?, Option.bind_eq_bind, Option.bind_eq_some_iff, Text.afterPrefix?_eq_some_iff]
  constructor
  · rintro ⟨reference, given, name, rfl, found⟩
    exact ⟨name, given, found⟩
  · rintro ⟨name, given, found⟩
    exact ⟨_, given, name, rfl, found⟩

theorem target?_eq_none_iff : document.target? node = none ↔ ¬ document.LeadsOn node := by
  rw [Option.eq_none_iff_forall_ne_some]
  constructor
  · rintro missing ⟨name, next, leads⟩
    exact missing next (target?_eq_some_iff.mpr ⟨name, leads⟩)
  · intro ended next found
    obtain ⟨name, leads⟩ := target?_eq_some_iff.mp found
    exact ended ⟨name, next, leads⟩

theorem LeadsTo.unique (h : document.LeadsTo node name next)
    (h' : document.LeadsTo node name' next') : name = name' ∧ next = next' := by
  have same := h.reference.symm.trans h'.reference
  obtain rfl : name = name' := by simpa using same
  exact ⟨rfl, Option.some.inj (h.schema.symm.trans h'.schema)⟩

namespace Chain

theorem append_hop (chain : document.Chain node names last)
    (leads : document.LeadsTo last name next) : document.Chain node (names ++ [name]) next := by
  induction chain with
  | here => exact .hop leads .here
  | hop first _ ih => exact .hop first (ih leads)

theorem subset_keys (chain : document.Chain node names last) : names ⊆ document.schemas.keys := by
  induction chain with
  | here => exact List.nil_subset _
  | hop first _ ih =>
    exact List.cons_subset.mpr ⟨Dict.mem_keys_of_get? first.schema, ih⟩

theorem of_append (chain : document.Chain node (names ++ name :: names') last) :
    ∃ schema, document.schemas.get? name = some schema ∧ document.Chain schema names' last := by
  induction names generalizing node with
  | nil =>
    cases chain with
    | hop first rest => exact ⟨_, first.schema, rest⟩
  | cons _ names ih =>
    cases chain with
    | hop _ rest => exact ih rest

section

variable (ended : ¬ document.LeadsOn last)
include ended

theorem isPrefix (chain : document.Chain node names last)
    (other : document.Chain node names' last') : names' <+: names := by
  induction chain generalizing names' with
  | here =>
    cases other with
    | here => exact List.prefix_rfl
    | hop first _ => exact absurd ⟨_, _, first⟩ ended
  | hop first _ ih =>
    cases other with
    | here => exact List.nil_prefix
    | hop first' rest =>
      obtain ⟨rfl, rfl⟩ := first.unique first'
      exact (List.prefix_cons_inj _).mpr (ih ended rest)

/-- A schema that a chain comes back to would be near to the end and far from it. -/
theorem nodup (chain : document.Chain node names last) : names.Nodup := by
  induction chain with
  | here => exact List.nodup_nil
  | hop first rest ih =>
    refine List.nodup_cons.mpr ⟨fun again => ?_, ih ended⟩
    obtain ⟨before, after, rfl⟩ := List.append_of_mem again
    obtain ⟨schema, found, near⟩ := rest.of_append
    obtain rfl := Option.some.inj (first.schema.symm.trans found)
    have short : before.length + (after.length + 1) ≤ after.length := by
      simpa using (near.isPrefix ended rest).length_le
    omega

theorem not_cycles (chain : document.Chain node names last) : ¬ document.Cycles node := by
  rintro ⟨names', last', other, repeated⟩
  exact repeated ((chain.isPrefix ended other).sublist.nodup (chain.nodup ended))

end

end Chain

theorem cycles_of_length_gt (chain : document.Chain node names last)
    (long : document.schemas.size < names.length) : document.Cycles node := by
  refine ⟨names, last, chain, fun distinct => ?_⟩
  have short : names.length ≤ document.schemas.keys.length :=
    distinct.length_le_of_subset chain.subset_keys
  have size : document.schemas.keys.length = document.schemas.size := List.length_map _
  omega

theorem resolveWithin_of_ended (ended : ¬ document.LeadsOn node) :
    document.resolveWithin node limit = node := by
  cases limit with
  | zero => rfl
  | succ limit => rw [resolveWithin, target?_eq_none_iff.mpr ended]

theorem resolveWithin_of_chain (chain : document.Chain node names last)
    (ended : ¬ document.LeadsOn last) (near : names.length ≤ limit) :
    document.resolveWithin node limit = last := by
  induction chain generalizing limit with
  | here => exact resolveWithin_of_ended ended
  | hop first _ ih =>
    cases limit with
    | zero => cases near
    | succ limit =>
      rw [resolveWithin, target?_eq_some_iff.mpr ⟨_, first⟩]
      exact ih ended (Nat.le_of_succ_le_succ near)

theorem exists_chain_resolveWithin (document : Document) (node : Node) (limit : Nat) :
    ∃ names, document.Chain node names (document.resolveWithin node limit) ∧
      names.length ≤ limit ∧
      (document.LeadsOn (document.resolveWithin node limit) → names.length = limit) := by
  induction limit generalizing node with
  | zero => exact ⟨[], .here, Nat.le_refl 0, fun _ => rfl⟩
  | succ limit ih =>
    rw [resolveWithin]
    cases found : document.target? node with
    | none =>
      exact ⟨[], .here, Nat.zero_le _, fun leads => absurd leads (target?_eq_none_iff.mp found)⟩
    | some next =>
      obtain ⟨name, first⟩ := target?_eq_some_iff.mp found
      obtain ⟨names, chain, near, far⟩ := ih next
      exact ⟨name :: names, .hop first chain, Nat.succ_le_succ near,
        fun leads => congrArg Nat.succ (far leads)⟩

/-- A node resolves to the end of its chain of references if that is at most 16 hops away, and in
any case to a node of its chain. With at most 16 schemas, it resolves to one that leads on exactly
if its references come back to a schema. -/
theorem resolve_on_chain (document : Document) (node : Node) :
    (∀ names last, document.Chain node names last → ¬ document.LeadsOn last →
      names.length ≤ 16 → document.resolve node = last ∧
        document.resolve (document.resolve node) = document.resolve node) ∧
    (document.schemas.size ≤ 16 →
      (document.LeadsOn (document.resolve node) ↔ document.Cycles node)) ∧
    ∃ names, names.length ≤ 16 ∧ document.Chain node names (document.resolve node) := by
  obtain ⟨names, chain, near, far⟩ := document.exists_chain_resolveWithin node referenceLimit
  refine ⟨fun names' last other ended short => ?_, fun small => ⟨fun leads => ?_, fun cycles => ?_⟩,
    names, near, chain⟩
  · have reached : document.resolve node = last := resolveWithin_of_chain other ended short
    rw [reached]
    exact ⟨rfl, resolveWithin_of_ended ended⟩
  · obtain ⟨name, next, further⟩ := leads
    have length : names.length = 16 := far ⟨name, next, further⟩
    refine cycles_of_length_gt (chain.append_hop further) ?_
    rw [List.length_append, length]
    exact Nat.lt_succ_of_le small
  · exact Classical.not_not.mp fun ended => chain.not_cycles ended cycles

def copies : Document where
  schemas := .ofList [
    ("Copy", { reference := some "#/components/schemas/Draft" }),
    ("Draft", { reference := some "#/components/schemas/Note" }),
    ("Note", { kind := some "object" }),
    ("Original", { reference := some "#/components/schemas/Twin" }),
    ("Twin", { reference := some "#/components/schemas/Original" })]

theorem copies_resolve :
    copies.Chain { reference := some "#/components/schemas/Copy" } ["Copy", "Draft", "Note"]
        { kind := some "object" } ∧
      ¬ copies.LeadsOn { kind := some "object" } ∧
      copies.resolve { reference := some "#/components/schemas/Copy" } =
        { kind := some "object" } ∧
      copies.schemas.size ≤ 16 ∧
      copies.Cycles { reference := some "#/components/schemas/Twin" } ∧
      copies.LeadsOn (copies.resolve { reference := some "#/components/schemas/Twin" }) := by
  have chain : copies.Chain { reference := some "#/components/schemas/Copy" }
      ["Copy", "Draft", "Note"] { kind := some "object" } :=
    .hop ⟨rfl, rfl⟩ (.hop ⟨rfl, rfl⟩ (.hop ⟨rfl, rfl⟩ .here))
  have ended : ¬ copies.LeadsOn { kind := some "object" } := target?_eq_none_iff.mp rfl
  have small : copies.schemas.size ≤ 16 := by decide
  have cycles : copies.Cycles { reference := some "#/components/schemas/Twin" } :=
    ⟨["Twin", "Original", "Twin"], _,
      .hop ⟨rfl, rfl⟩ (.hop ⟨rfl, rfl⟩ (.hop ⟨rfl, rfl⟩ .here)), by decide⟩
  obtain ⟨ends, -, -⟩ :=
    copies.resolve_on_chain { reference := some "#/components/schemas/Copy" }
  obtain ⟨-, leads_iff, -⟩ :=
    copies.resolve_on_chain { reference := some "#/components/schemas/Twin" }
  exact ⟨chain, ended, (ends _ _ chain ended (by decide)).1, small, cycles,
    (leads_iff small).mpr cycles⟩

end Typesmith.OpenApi.Document
