import Typesmith.Proofs.Bisimulation
import Typesmith.Proofs.Carries
import Typesmith.Proofs.References

/-! # Inlined references

A property or the items of a node may be a reference. If following it comes to an end, a copy of the
node at the end can stand in its place: no report tells the difference.
-/

namespace Typesmith

open OpenApi (Node Document)

namespace OpenApi

/-- A step from a node to one of its parts. -/
inductive Step where
  | property (name : String)
  | items
deriving DecidableEq, Repr

namespace Node

def at? : List Step → Node → Option Node
  | [], node => some node
  | .property name :: steps, node => (node.properties.get? name).bind (at? steps)
  | .items :: steps, node => node.items.bind (at? steps)

/-- Changes the node that some steps lead to, if there is one; of several members of one name, each
is changed. -/
def modifyAt (f : Node → Node) : List Step → Node → Node
  | [], node => f node
  | .property name :: steps, node =>
    { node with members := modifyByName name (modifyAt f steps) node.members }
  | .items :: steps, node => { node with items := node.items.map (modifyAt f steps) }

theorem at?_modifyAt {f : Node → Node} {steps : List Step} {node part : Node}
    (h : at? steps node = some part) : at? steps (modifyAt f steps node) = some (f part) := by
  induction steps generalizing node with
  | nil => exact congrArg (some <| f ·) (Option.some.inj h)
  | cons step steps ih =>
    cases step with
    | property name =>
      obtain ⟨property, under, h⟩ := Option.bind_eq_some_iff.mp h
      have changed : (modifyAt f (.property name :: steps) node).properties.get? name =
          some (modifyAt f steps property) := by
        change (byName (modifyByName name (modifyAt f steps) node.members)).lookup name = _
        rw [byName_modifyByName, lookup_modifyByName]
        exact congrArg (Option.map _) under
      exact Option.bind_eq_some_iff.mpr ⟨_, changed, ih h⟩
    | items =>
      obtain ⟨item, items, h⟩ := Option.bind_eq_some_iff.mp h
      exact Option.bind_eq_some_iff.mpr ⟨_, congrArg (Option.map _) items, ih h⟩

end Node

namespace Document

def inlined (document : Document) (node : Node) : Node :=
  { document.resolve node with
    description := node.description.or (document.resolve node).description }

def part? (document : Document) (type : String) (steps : List Step) : Option Node :=
  (document.schemas.get? type).bind (Node.at? steps)

/-- Puts the node at the end of its references in the place of a part of a type. -/
def inlineAt (document : Document) (type : String) (steps : List Step) : Document :=
  { document with
    schemas := document.schemas.modify type (Node.modifyAt document.inlined steps) }

/-- Following the references of a node comes to an end. -/
def Ends (document : Document) (node : Node) : Prop :=
  document.target? (document.resolve node) = none

/-- The references at a part of a node are inlined, if there is such a part. -/
def InlinesBelow (document : Document) (node other : Node) : Prop :=
  other = node ∨ ∃ step steps, other = node.modifyAt document.inlined (step :: steps) ∧
    ∀ part ∈ Node.at? (step :: steps) node, document.Ends part

def Inlines (document : Document) (node other : Node) : Prop :=
  document.InlinesBelow node other ∨ document.Ends node ∧ other = document.inlined node

variable {document : Document} {type : String} {step : Step} {steps : List Step}
  {node other : Node}

theorem Inlines.refl (node : Node) : document.Inlines node node :=
  .inl (.inl rfl)

theorem inlines_modifyAt (ends : ∀ part ∈ Node.at? steps node, document.Ends part) :
    document.Inlines node (node.modifyAt document.inlined steps) := by
  cases steps with
  | nil => exact .inr ⟨ends node rfl, rfl⟩
  | cons step steps => exact .inl (.inr ⟨step, steps, rfl, ends⟩)

theorem InlinesBelow.reference (h : document.InlinesBelow node other) :
    other.reference = node.reference ∧ other.description = node.description := by
  rcases h with rfl | ⟨step, steps, rfl, -⟩
  · exact ⟨rfl, rfl⟩
  · cases step <;> exact ⟨rfl, rfl⟩

theorem InlinesBelow.alike (h : document.InlinesBelow node other) :
    node.Alike document.Inlines other := by
  rcases h with rfl | ⟨step, steps, rfl, ends⟩
  · exact .refl .refl other
  cases step with
  | property name =>
    refine { Node.Alike.refl .refl node with bare := ?_, properties := ?_ }
    · simp [Node.modifyAt, modifyByName]
    · change Parallel _ (byName node.members) (byName (modifyByName name _ node.members))
      rw [byName_modifyByName]
      refine parallel_modifyByName .refl fun property mem => inlines_modifyAt fun part found => ?_
      -- Of several members of one name, the one that is a property is the one that steps lead to.
      have under : node.properties.get? name = some property := Dict.get?_of_mem_entries mem
      exact ends part (by simpa [Node.at?, under] using found)
  | items =>
    refine { Node.Alike.refl .refl node with items := ?_ }
    unfold Node.modifyAt
    cases items : node.items with
    | none => exact .none
    | some item =>
      refine .some (inlines_modifyAt fun part found => ?_)
      exact ends part (by simpa [Node.at?, items] using found)

theorem part?_inlineAt (h : document.part? type steps = some node) :
    (document.inlineAt type steps).part? type steps = some (document.inlined node) := by
  obtain ⟨root, found, h⟩ := Option.bind_eq_some_iff.mp h
  have changed : (document.inlineAt type steps).schemas.get? type =
      some (Node.modifyAt document.inlined steps root) :=
    lookup_modifyByName.trans (congrArg (Option.map _) found)
  exact Option.bind_eq_some_iff.mpr ⟨_, changed, Node.at?_modifyAt h⟩

-- References lead to types, and the node of a type is never replaced, only changed below. So the
-- nodes that related nodes lead to are the same or changed below, at every step.

theorem types_inlineAt (ends : ∀ part ∈ document.part? type (step :: steps), document.Ends part) :
    Parallel document.InlinesBelow document.schemas.entries
      (document.inlineAt type (step :: steps)).schemas.entries := by
  refine parallel_modifyByName (fun _ => .inl rfl) fun root mem => .inr ⟨step, steps, rfl, ?_⟩
  intro part found
  exact ends part (by simpa [part?, Dict.get?_of_mem_entries mem] using found)

section

variable {inlined : Document}
  (types : Parallel document.InlinesBelow document.schemas.entries inlined.schemas.entries)

include types

theorem target?_of_types (same : other.reference = node.reference) :
    (document.target? node = none ∧ inlined.target? other = none) ∨
      ∃ next next', document.InlinesBelow next next' ∧ document.target? node = some next ∧
        inlined.target? other = some next' := by
  unfold target?
  rw [same]
  cases node.reference with
  | none => exact .inl ⟨rfl, rfl⟩
  | some reference =>
    cases named : Text.afterPrefix? "#/components/schemas/" reference with
    | none => simp [named]
    | some name =>
      simp only [named, Option.bind_eq_bind, Option.bind_some]
      exact types.lookup name

theorem inlinesBelow_resolveWithin {limit : Nat} (h : document.InlinesBelow node other) :
    document.InlinesBelow (document.resolveWithin node limit)
      (inlined.resolveWithin other limit) := by
  induction limit generalizing node other with
  | zero => exact h
  | succ limit ih =>
    unfold resolveWithin
    rcases target?_of_types types h.reference.1 with
      ⟨missing, missing'⟩ | ⟨next, next', below, found, found'⟩
    · rw [missing, missing']
      exact h
    · rw [found, found']
      exact ih below

theorem resolve_inlined (ends : document.Ends node) :
    inlined.resolve (document.inlined node) = document.inlined node := by
  refine resolveWithin_of_ended (target?_eq_none_iff.mp ?_)
  have same : (document.inlined node).reference = (document.resolve node).reference := rfl
  rcases target?_of_types types same with ⟨-, missing⟩ | ⟨next, -, -, found, -⟩
  · exact missing
  · cases ends.symm.trans found

theorem bisimulation_of_types : document.Bisimulation inlined document.Inlines where
  types := types.imp fun _ _ ⟨same, below⟩ => ⟨same, .inl below⟩
  shapes := by
    rintro node other (below | ⟨ends, rfl⟩)
    · -- Both are followed to shapes that differ below.
      exact (inlinesBelow_resolveWithin types below).alike
    · -- The copy is its own shape, and differs from the other one in the description alone.
      rw [resolve_inlined types ends]
      exact { Node.Alike.refl .refl (document.resolve node) with }
  description := by
    rintro node other (below | ⟨ends, rfl⟩)
    · have shape : (inlined.resolve other).description = (document.resolve node).description :=
        (inlinesBelow_resolveWithin types below).reference.2
      rw [below.reference.2, shape]
    · rw [resolve_inlined types ends]
      exact Option.or_self

end

end Document

end OpenApi

namespace Service

variable {service : Service} {type : String} {step : OpenApi.Step} {steps : List OpenApi.Step}
  {node : Node}

def inlineAt (service : Service) (type : String) (steps : List OpenApi.Step) : Service :=
  { service with document := service.document.inlineAt type steps }

/-- If the references of a part of a type come to an end, a copy of the node there can replace it:
fields, types and literals stay as they are, with every failure and every warning. -/
theorem inlineAt_unobservable (part : service.document.part? type (step :: steps) = some node)
    (ends : service.document.Ends node) :
    (service.inlineAt type (step :: steps)).document.part? type (step :: steps) =
      some { service.document.resolve node with
        description := node.description.or (service.document.resolve node).description } ∧
    (∀ name, (service.inlineAt type (step :: steps)).fields name = service.fields name) ∧
    (service.inlineAt type (step :: steps)).schema = service.schema ∧
    ∀ name attributes, (service.inlineAt type (step :: steps)).messageLiteral name attributes =
      service.messageLiteral name attributes := by
  have same : service.document.Bisimulation (service.inlineAt type (step :: steps)).document
      service.document.Inlines :=
    Document.bisimulation_of_types (Document.types_inlineAt fun other found => by
      obtain rfl : node = other := Option.some.inj (part.symm.trans found)
      exact ends)
  exact ⟨Document.part?_inlineAt part, fields_congr same, schema_congr same,
    messageLiteral_congr same⟩

theorem notes_inlineAt_parent :
    notes.document.part? "Note" [.property "parent"] =
        some { reference := some "#/components/schemas/Note" } ∧
      notes.document.Ends { reference := some "#/components/schemas/Note" } ∧
      (notes.inlineAt "Note" [.property "parent"]).document.part? "Note" [.property "parent"] =
        some noteNode ∧
      (notes.inlineAt "Note" [.property "parent"]).messageLiteral "Note" noteAttributes =
        notes.messageLiteral "Note" noteAttributes := by
  have part : notes.document.part? "Note" [.property "parent"] =
      some { reference := some "#/components/schemas/Note" } := rfl
  have ends : notes.document.Ends { reference := some "#/components/schemas/Note" } := rfl
  obtain ⟨copy, -, -, literals⟩ := inlineAt_unobservable part ends
  exact ⟨part, ends, copy, literals "Note" noteAttributes⟩

end Service

end Typesmith
