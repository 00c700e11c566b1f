import Mathlib.Data.List.TakeWhile
import Typesmith.Proofs.Carries

/-! # Short names

A tag keeps the last part of a full name. Looking that up leads back to the descriptor that is meant
exactly if its name is preferred: it stands in the package, or no such name does and none before it
in the pool ends in the same part. Fields and values are then those of the descriptor itself.
-/

namespace Typesmith

open Json (Value)
open OpenApi (Node)

namespace Proto

/-- A name is preferred among some if it is the one that stands in a package, or else the first one
of its short form. -/
def Preferred (package : String) (names : List String) (name : String) : Prop :=
  name = package ++ "." ++ shortName name ∨
    package ++ "." ++ shortName name ∉ names ∧
      ∃ before after, names = before ++ name :: after ∧
        ∀ other ∈ before, shortName other ≠ shortName name

theorem shortName_qualified (package name : String) :
    shortName (package ++ "." ++ shortName name) = shortName name := by
  have plain : ∀ c ∈ name.toList.reverse.takeWhile (· ≠ '.'), (decide (c ≠ '.')) = true :=
    fun c mem => (List.mem_takeWhile_imp mem :)
  have toList : (package ++ "." ++ shortName name).toList.reverse =
      name.toList.reverse.takeWhile (· ≠ '.') ++ '.' :: package.toList.reverse := by
    simp [shortName]
  rw [shortName, toList, List.takeWhile_append_of_pos plain]
  simp [shortName]

section

variable {α : Type} {fullName : α → String} {items : List α} {package : String} {found : α}

def search (fullName : α → String) (items : List α) (package name : String) : Option α :=
  (items.find? (fullName · == package ++ "." ++ name)).or
    (items.find? fun item => shortName (fullName item) == name)

theorem find?_shortName_eq_some_iff
    (own : items.find? (fullName · == fullName found) = some found) :
    (items.find? fun item => shortName (fullName item) == shortName (fullName found)) = some found ↔
      ∃ before after, items.map fullName = before ++ fullName found :: after ∧
        ∀ other ∈ before, shortName other ≠ shortName (fullName found) := by
  rw [List.find?_eq_some_iff_append]
  constructor
  · rintro ⟨-, before, after, rfl, first⟩
    refine ⟨before.map fullName, after.map fullName, by simp, ?_⟩
    simpa using first
  · rintro ⟨before, after, split, first⟩
    obtain ⟨earlier, rest, rfl, rfl, tail⟩ := List.map_eq_append_iff.mp split
    obtain ⟨item, later, rfl, named, rfl⟩ := List.map_eq_cons_iff.mp tail
    have others : ∀ other ∈ earlier, shortName (fullName other) ≠ shortName (fullName found) :=
      fun other mem => first _ (List.mem_map_of_mem mem)
    have absent : earlier.find? (fullName · == fullName found) = none := by
      rw [List.find?_eq_none]
      intro other mem same
      exact others other mem (congrArg shortName (beq_iff_eq.mp same))
    obtain rfl : item = found := by
      simpa [List.find?_append, absent, named] using own
    refine ⟨by simp, earlier, later, rfl, ?_⟩
    simpa using others

theorem search_eq_some_iff (own : items.find? (fullName · == fullName found) = some found) :
    search fullName items package (shortName (fullName found)) = some found ↔
      Preferred package (items.map fullName) (fullName found) := by
  unfold search Preferred
  by_cases here : fullName found = package ++ "." ++ shortName (fullName found)
  · rw [← here, own]
    simp
  cases hf : items.find? (fullName · == package ++ "." ++ shortName (fullName found)) with
  | some other =>
    -- Another item stands in the package under the short name, and hides the one that is meant.
    have named : fullName other = package ++ "." ++ shortName (fullName found) := by
      simpa using List.find?_some hf
    have listed : package ++ "." ++ shortName (fullName found) ∈ items.map fullName :=
      named ▸ List.mem_map_of_mem (List.mem_of_find?_eq_some hf)
    constructor
    · intro h
      obtain rfl : other = found := by simpa using h
      exact absurd named here
    · rintro (h | ⟨unlisted, -⟩)
      · exact absurd h here
      · exact absurd listed unlisted
  | none =>
    have unlisted : package ++ "." ++ shortName (fullName found) ∉ items.map fullName := by
      simpa using hf
    rw [Option.none_or, find?_shortName_eq_some_iff own]
    constructor
    · exact fun h => .inr ⟨unlisted, h⟩
    · rintro (h | ⟨-, h⟩)
      · exact absurd h here
      · exact h

theorem exists_find? {f : α → String} (mem : found ∈ items) :
    ∃ other ∈ items, items.find? (f · == f found) = some other ∧ f other = f found := by
  have some_other : (items.find? (f · == f found)).isSome = true :=
    List.find?_isSome.mpr ⟨found, mem, beq_self_eq_true _⟩
  obtain ⟨other, h⟩ := Option.isSome_iff_exists.mp some_other
  exact ⟨other, List.mem_of_find?_eq_some h, h, by simpa using List.find?_some h⟩

theorem exists_search (mem : found ∈ items) :
    ∃ other, search fullName items package (shortName (fullName found)) = some other ∧
      shortName (fullName other) = shortName (fullName found) := by
  unfold search
  cases hf : items.find? (fullName · == package ++ "." ++ shortName (fullName found)) with
  | some other =>
    have named : fullName other = package ++ "." ++ shortName (fullName found) := by
      simpa using List.find?_some hf
    exact ⟨other, rfl, by rw [named, shortName_qualified]⟩
  | none =>
    obtain ⟨other, -, first, same⟩ := exists_find? (f := fun item => shortName (fullName item)) mem
    exact ⟨other, first, same⟩

end

def MessageDescriptor.field? (message : MessageDescriptor) (field : String) :
    Option FieldDescriptor :=
  (message.fields.find? (·.name == field)).or (message.fields.find? (·.jsonName == field))

namespace Pool

/-- Some field holds values of a kind: by itself, or as the values of its map. -/
def Refers (pool : Pool) (kind : Kind) : Prop :=
  ∃ message ∈ pool.messages, ∃ field ∈ message.fields,
    (field.mapEntry = none ∧ field.kind = kind) ∨ ∃ entry ∈ field.mapEntry, entry.2 = kind

instance (pool : Pool) : DecidablePred pool.Refers := fun kind =>
  inferInstanceAs (Decidable (∃ message ∈ pool.messages, ∃ field ∈ message.fields,
    (field.mapEntry = none ∧ field.kind = kind) ∨ ∃ entry ∈ field.mapEntry, entry.2 = kind))

variable {pool : Pool} {kind : Kind}

theorem Closed.holds_of_refers (closed : pool.Closed) (h : pool.Refers kind) : pool.Holds kind := by
  obtain ⟨message, hm, field, hf, ⟨-, rfl⟩ | ⟨entry, he, rfl⟩⟩ := h
  · exact (closed message hm field hf).1
  · exact ((closed message hm field hf).2 entry he).2

end Pool

namespace Descriptors

variable {descriptors : Descriptors} {name field : String}

theorem field?_of_message? {message : MessageDescriptor}
    (h : descriptors.message? name = some message) :
    descriptors.field? name field = message.field? field := by
  simp only [field?, h, MessageDescriptor.field?]
  rfl

end Descriptors

end Proto

namespace Service

open Proto

variable {service : Service} {name : String}

theorem message_of_refers (h : service.descriptors.pool.Refers (.message name)) :
    ∃ message ∈ service.descriptors.pool.messages,
      service.descriptors.pool.message? name = some message ∧ message.fullName = name := by
  obtain ⟨message, mem, rfl⟩ := service.descriptors.closed.holds_of_refers h
  exact exists_find? mem

theorem enum_of_refers (h : service.descriptors.pool.Refers (.enum name)) :
    ∃ enum ∈ service.descriptors.pool.enums,
      service.descriptors.pool.enum? name = some enum ∧ enum.fullName = name := by
  obtain ⟨enum, mem, rfl⟩ := service.descriptors.closed.holds_of_refers h
  exact exists_find? mem

theorem walk_enum {enum : EnumDescriptor} {node : Option Node} {location value : String}
    (h : service.descriptors.enum? name = some enum) :
    (service.walk (.enum name) node location (.string value)).outcome =
      .ok (if enum.declares value then some (.enum name value) else none) := by
  rw [walk_of_not_opens rfl, outcome_walkLeaf]
  simp [leaf?, isEnumValue, h]

/-- The short name of a message or an enum that a field refers to leads back to it exactly if its
full name is preferred; its own fields are then those of the nested message, and its own values
those of the enum. In any case it leads to a descriptor of the same short name. -/
theorem lookup_shortName_iff (service : Service) :
    (∀ name, service.descriptors.pool.Refers (.message name) → service.isDynamic name = false →
      ∃ message, service.descriptors.pool.message? name = some message ∧
        service.kindTag (.message name) = .message (shortName name) ∧
        (service.descriptors.message? (shortName name) = some message ↔
          Preferred service.descriptors.package
            (service.descriptors.pool.messages.map (·.fullName)) name) ∧
        (service.descriptors.message? (shortName name) = some message →
          ∀ field, service.descriptors.field? (shortName name) field = message.field? field) ∧
        ∃ other, service.descriptors.message? (shortName name) = some other ∧
          shortName other.fullName = shortName name) ∧
    (∀ name, service.descriptors.pool.Refers (.enum name) →
      ∃ enum, service.descriptors.pool.enum? name = some enum ∧
        service.kindTag (.enum name) = .enum (shortName name) ∧
        (service.descriptors.enum? (shortName name) = some enum ↔
          Preferred service.descriptors.package
            (service.descriptors.pool.enums.map (·.fullName)) name) ∧
        (service.descriptors.enum? (shortName name) = some enum →
          ∀ node location value,
            (service.walk (.enum (shortName name)) node location (.string value)).outcome =
              .ok (if enum.declares value then some (.enum (shortName name) value) else none)) ∧
        ∃ other, service.descriptors.enum? (shortName name) = some other ∧
          shortName other.fullName = shortName name) := by
  constructor
  · intro name refers static
    obtain ⟨message, mem, found, rfl⟩ := message_of_refers refers
    refine ⟨message, found, by simp [kindTag, static], search_eq_some_iff found, ?_,
      exists_search mem⟩
    exact fun back field => Descriptors.field?_of_message? back
  · intro name refers
    obtain ⟨enum, mem, found, rfl⟩ := enum_of_refers refers
    exact ⟨enum, found, rfl, search_eq_some_iff found, fun back _ _ _ => walk_enum back,
      exists_search mem⟩

def orderLine : MessageDescriptor where
  fullName := "billing.Order.Line"
  fields := [⟨"sku", "sku", 1, .scalar .string, false, none, none⟩]
  isMapEntry := false

def invoiceLine : MessageDescriptor where
  fullName := "billing.Invoice.Line"
  fields := [⟨"amounts", "amounts", 1, .scalar .int64, true, none, none⟩]
  isMapEntry := false

def orderStatus : EnumDescriptor := ⟨"billing.Order.Status", [("OPEN", 0), ("SENT", 1)]⟩

def invoiceStatus : EnumDescriptor := ⟨"billing.Invoice.Status", [("DRAFT", 0), ("PAID", 1)]⟩

def billing : Service where
  name := "billing"
  document := {
    schemas := .ofList [
      ("Invoice", {
        kind := some "object"
        members := [
          ("line", {
            kind := some "object"
            members := [("amounts", { kind := some "array" })] }),
          ("status", { kind := some "object" })] })] }
  descriptors := {
    package := "billing"
    pool := {
      messages := [
        { fullName := "billing.Order"
          fields := [
            ⟨"line", "line", 1, .message "billing.Order.Line", false, none, none⟩,
            ⟨"status", "status", 2, .enum "billing.Order.Status", false, none, none⟩]
          isMapEntry := false },
        orderLine,
        { fullName := "billing.Invoice"
          fields := [
            ⟨"line", "line", 1, .message "billing.Invoice.Line", false, none, none⟩,
            ⟨"status", "status", 2, .enum "billing.Invoice.Status", false, none, none⟩]
          isMapEntry := false },
        invoiceLine]
      enums := [orderStatus, invoiceStatus] } }
  dynamicTypes := []

theorem billing_lookup_shortName :
    (billing.descriptors.pool.Refers (.message "billing.Order.Line") ∧
      billing.isDynamic "billing.Order.Line" = false ∧
      billing.descriptors.message? "Line" = some orderLine ∧
      ∀ field, billing.descriptors.field? "Line" field = orderLine.field? field) ∧
    (billing.descriptors.pool.Refers (.enum "billing.Order.Status") ∧
      billing.descriptors.enum? "Status" = some orderStatus ∧
      ∀ node location value,
        (billing.walk (.enum "Status") node location (.string value)).outcome =
          .ok (if orderStatus.declares value then some (.enum "Status" value) else none)) := by
  obtain ⟨messages, enums⟩ := lookup_shortName_iff billing
  have line : billing.descriptors.pool.Refers (.message "billing.Order.Line") := by decide
  have status : billing.descriptors.pool.Refers (.enum "billing.Order.Status") := by decide
  constructor
  · obtain ⟨_, found, -, back, fields, -⟩ := messages "billing.Order.Line" line rfl
    obtain rfl : orderLine = _ := Option.some.inj found
    have first : billing.descriptors.message? "Line" = some orderLine :=
      back.mpr (.inr ⟨by decide, ["billing.Order"], _, rfl, by decide⟩)
    exact ⟨line, rfl, first, fields first⟩
  · obtain ⟨_, found, -, back, values, -⟩ := enums "billing.Order.Status" status
    obtain rfl : orderStatus = _ := Option.some.inj found
    have first : billing.descriptors.enum? "Status" = some orderStatus :=
      back.mpr (.inr ⟨by decide, [], _, rfl, by decide⟩)
    exact ⟨status, first, values first⟩

set_option maxRecDepth 8000 in
/-- The line and the status of an invoice are taken for those of an order. -/
theorem invoice_confused :
    (billing.descriptors.pool.Refers (.message "billing.Invoice.Line") ∧
      billing.isDynamic "billing.Invoice.Line" = false ∧
      billing.descriptors.pool.message? "billing.Invoice.Line" = some invoiceLine ∧
      billing.kindTag (.message "billing.Invoice.Line") = .message "Line" ∧
      billing.descriptors.message? "Line" = some orderLine ∧ orderLine ≠ invoiceLine ∧
      (invoiceLine.field? "amounts").isSome = true ∧
      (billing.messageLiteral "Invoice" [("line", .object [("amounts", .array [])])]).outcome =
        .error (.fieldNotFound "billing" "Line" "amounts")) ∧
    (billing.descriptors.pool.Refers (.enum "billing.Invoice.Status") ∧
      billing.descriptors.pool.enum? "billing.Invoice.Status" = some invoiceStatus ∧
      billing.kindTag (.enum "billing.Invoice.Status") = .enum "Status" ∧
      billing.descriptors.enum? "Status" = some orderStatus ∧ orderStatus ≠ invoiceStatus ∧
      invoiceStatus.declares "PAID" = true ∧
      (billing.messageLiteral "Invoice" [("status", .string "PAID")]).outcome =
        .ok (.message "Invoice" [])) := by
  refine ⟨⟨by decide, rfl, rfl, rfl, rfl, by decide, rfl, rfl⟩, by decide, rfl, rfl, rfl, by decide,
    rfl, rfl⟩

end Service

end Typesmith
