import Mathlib.Data.List.Forall2
import Typesmith.Report

/-! # Reports in sequence

A sequence of operations succeeds when all of them do. Its results are those of the operations in
order, and so are its warnings. Operations that give different values can be compared by effect.
-/

namespace Typesmith.Report

variable {α β γ : Type}

def Succeeds (report : Report α) : Prop :=
  ∃ value, report.outcome = .ok value

theorem isOk_outcome_iff {report : Report α} : report.outcome.isOk = true ↔ report.Succeeds := by
  unfold Succeeds
  cases report.outcome <;> simp [Except.isOk, Except.toBool]

instance (report : Report α) : Decidable report.Succeeds :=
  decidable_of_iff (report.outcome.isOk = true) isOk_outcome_iff

def found (report : Report (Option α)) : Option α :=
  match report.outcome with
  | .ok found => found
  | .error _ => none

section

variable {report : Report α} {next : α → Report β} {error : Error} {value : α} {result : β}

theorem found_of_outcome {report : Report (Option α)} {found : Option α}
    (h : report.outcome = .ok found) : report.found = found := by
  simp [Report.found, h]

theorem Succeeds.outcome_found {report : Report (Option α)} (h : report.Succeeds) :
    report.outcome = .ok report.found := by
  obtain ⟨found, h⟩ := h
  rw [h, found_of_outcome h]

theorem bind_of_ok (h : report.outcome = .ok value) :
    report >>= next = ⟨(next value).outcome, report.warnings ++ (next value).warnings⟩ := by
  change report.andThen next = _
  simp [andThen, h]

theorem outcome_lift {outcome : Except Error α} :
    (liftM outcome : Report α).outcome = outcome := rfl

theorem bind_lift_ok : (liftM (.ok value : Except Error α) : Report α) >>= next = next value := rfl

theorem bind_lift_error :
    (liftM (.error error : Except Error α) : Report α) >>= next = Report.fail error := rfl

theorem bind_of_error (h : report.outcome = .error error) :
    report >>= next = ⟨.error error, report.warnings⟩ := by
  change report.andThen next = _
  simp [andThen, h]

theorem bind_assoc {last : β → Report γ} :
    report >>= next >>= last = report >>= fun value => next value >>= last := by
  cases h : report.outcome with
  | error error => rw [bind_of_error h, bind_of_error h, bind_of_error rfl]
  | ok value =>
    rw [bind_of_ok h, bind_of_ok h]
    cases h' : (next value).outcome with
    | error error => rw [bind_of_error h', bind_of_error rfl]
    | ok result => rw [bind_of_ok h', bind_of_ok rfl, List.append_assoc]

theorem pure_bind {value : α} {next : α → Report β} : (pure value >>= next) = next value := rfl

theorem outcome_bind_eq_ok_iff :
    (report >>= next).outcome = .ok result ↔
      ∃ value, report.outcome = .ok value ∧ (next value).outcome = .ok result := by
  cases h : report.outcome with
  | ok value => simp [bind_of_ok h]
  | error error => simp [bind_of_error h]

theorem outcome_bind_eq_error_iff :
    (report >>= next).outcome = .error error ↔
      report.outcome = .error error ∨
        ∃ value, report.outcome = .ok value ∧ (next value).outcome = .error error := by
  cases h : report.outcome with
  | ok value => simp [bind_of_ok h]
  | error cause => simp [bind_of_error h]

theorem succeeds_bind_iff :
    (report >>= next).Succeeds ↔ ∃ value, report.outcome = .ok value ∧ (next value).Succeeds := by
  simp only [Succeeds, outcome_bind_eq_ok_iff]
  exact ⟨fun ⟨_, value, h, h'⟩ => ⟨value, h, _, h'⟩, fun ⟨value, h, _, h'⟩ => ⟨_, value, h, h'⟩⟩

theorem succeeds_return_iff {f : α → β} :
    (do return f (← report) : Report β).Succeeds ↔ report.Succeeds := by
  simp only [succeeds_bind_iff]
  exact ⟨fun ⟨value, h, _⟩ => ⟨value, h⟩, fun ⟨value, h⟩ => ⟨value, h, _, rfl⟩⟩

theorem succeeds_bind_of_ok (h : report.outcome = .ok value) :
    (report >>= next).Succeeds ↔ (next value).Succeeds := by
  rw [bind_of_ok h]
  rfl

theorem found_bind_of_ok {next : α → Report (Option β)} (h : report.outcome = .ok value) :
    (report >>= next).found = (next value).found := by
  rw [bind_of_ok h]
  rfl

theorem warnings_bind_of_ok (h : report.outcome = .ok value) :
    (report >>= next).warnings = report.warnings ++ (next value).warnings := by
  rw [bind_of_ok h]

theorem found_bind {next : α → Report (Option β)} :
    (report >>= next).found = report.outcome.toOption.bind fun value => (next value).found := by
  cases h : report.outcome with
  | ok value =>
    rw [bind_of_ok h]
    rfl
  | error error =>
    rw [bind_of_error h]
    rfl

@[simp] theorem found_pure {found : Option α} : (pure found : Report (Option α)).found = found :=
  rfl

@[simp] theorem succeeds_pure : (pure value : Report α).Succeeds := ⟨value, rfl⟩

end

theorem return_eq {report : Report α} {f : α → β} :
    (do return f (← report)) = ⟨report.outcome.map f, report.warnings⟩ := by
  cases h : report.outcome with
  | ok value =>
    rw [bind_of_ok h, warnings_pure, List.append_nil]
    rfl
  | error error =>
    rw [bind_of_error h]
    rfl

theorem bind_pure {report : Report α} : report >>= pure = report := by
  cases h : report.outcome with
  | ok value => rw [bind_of_ok h, outcome_pure, warnings_pure, List.append_nil, ← h]
  | error error => rw [bind_of_error h, ← h]

section

variable {report : Report (Option α)} {f : α → β}

theorem return_map :
    (do return (← report).map f) = ⟨report.outcome.map (·.map f), report.warnings⟩ :=
  return_eq

theorem succeeds_return_map : (do return (← report).map f : Report (Option β)).Succeeds ↔
    report.Succeeds :=
  succeeds_return_iff

theorem found_return_map : (do return (← report).map f : Report (Option β)).found =
    report.found.map f := by
  rw [return_map]
  cases h : report.outcome <;> simp [found, h, Except.map]

theorem warnings_return_map : (do return (← report).map f : Report (Option β)).warnings =
    report.warnings := by
  rw [return_map]

end

/-- Runs an operation for each item in order, and keeps the results that there are. -/
def each (items : List α) (run : α → Report (Option β)) : Report (List β) :=
  match items with
  | [] => pure []
  | item :: rest => do
    let found ← run item
    let others ← each rest run
    return found.toList ++ others

variable {items : List α} {run : α → Report (Option β)}

theorem collect_map (name : α → String) :
    collect (items.map fun item => (name item, run item)) = each items run := by
  induction items with
  | nil => rfl
  | cons item rest ih => simp only [List.map_cons, collect, each, ih]

theorem each_congr {run' : α → Report (Option β)} (h : ∀ item ∈ items, run item = run' item) :
    each items run = each items run' := by
  induction items with
  | nil => rfl
  | cons item rest ih =>
    obtain ⟨first, others⟩ := List.forall_mem_cons.mp h
    rw [each, each, first, ih others]

theorem forEach_map {run : α → Report β} : forEach (items.map run) id = forEach items run := by
  induction items with
  | nil => rfl
  | cons item rest ih => rw [List.map_cons, forEach, forEach, ih, id]

theorem forEach_congr {others : List γ} {run : α → Report β} {run' : γ → Report β}
    (h : others.map run' = items.map run) : forEach others run' = forEach items run := by
  rw [← forEach_map, h, forEach_map]

theorem return_forEach {run : α → Report β} {f : β → γ} :
    (do return (← forEach items run).map f) = forEach items fun item => do
      return f (← run item) := by
  induction items with
  | nil => rfl
  | cons item rest ih => simp only [forEach, ← ih, bind_assoc, pure_bind, List.map_cons]

theorem succeeds_each_iff : (each items run).Succeeds ↔ ∀ item ∈ items, (run item).Succeeds := by
  induction items with
  | nil => simp [each]
  | cons item rest ih =>
    simp only [each, succeeds_bind_iff, succeeds_pure, and_true, List.forall_mem_cons, ← ih]
    exact ⟨fun ⟨_, h, h'⟩ => ⟨⟨_, h⟩, h'⟩, fun ⟨⟨_, h⟩, h'⟩ => ⟨_, h, h'⟩⟩

theorem succeeds_forEach_iff {run : α → Report β} :
    (forEach items run).Succeeds ↔ ∀ item ∈ items, (run item).Succeeds := by
  induction items with
  | nil => simp [forEach]
  | cons item rest ih =>
    simp only [forEach, succeeds_bind_iff, succeeds_pure, and_true, List.forall_mem_cons, ← ih]
    exact ⟨fun ⟨_, h, h'⟩ => ⟨⟨_, h⟩, h'⟩, fun ⟨⟨_, h⟩, h'⟩ => ⟨_, h, h'⟩⟩

theorem outcome_forEach_eq_ok_iff {run : α → Report β} {results : List β} :
    (forEach items run).outcome = .ok results ↔
      List.Forall₂ (fun item result => (run item).outcome = .ok result) items results := by
  induction items generalizing results with
  | nil => simp [forEach, eq_comm]
  | cons item rest ih =>
    rw [List.forall₂_cons_left_iff]
    simp only [forEach, outcome_bind_eq_ok_iff, outcome_pure, Except.ok.injEq, ih]
    constructor
    · rintro ⟨first, here, others, there, rfl⟩
      exact ⟨first, others, here, there, rfl⟩
    · rintro ⟨first, others, here, there, rfl⟩
      exact ⟨first, here, others, there, rfl⟩

theorem outcome_forEach_eq_error_iff {run : α → Report β} {error : Error} :
    (forEach items run).outcome = .error error ↔
      ∃ before item after, items = before ++ item :: after ∧
        (∀ earlier ∈ before, (run earlier).Succeeds) ∧ (run item).outcome = .error error := by
  induction items with
  | nil => simp [forEach]
  | cons item rest ih =>
    simp only [forEach, outcome_bind_eq_error_iff, outcome_pure, reduceCtorEq, and_false,
      exists_false, or_false, ih]
    constructor
    · rintro (here | ⟨first, here, before, failing, after, rfl, all, there⟩)
      · exact ⟨[], item, rest, rfl, by simp, here⟩
      · exact ⟨item :: before, failing, after, rfl,
          List.forall_mem_cons.mpr ⟨⟨first, here⟩, all⟩, there⟩
    · rintro ⟨before, failing, after, split, all, there⟩
      cases before with
      | nil =>
        obtain ⟨rfl, -⟩ := List.cons.inj split
        exact .inl there
      | cons head before =>
        obtain ⟨rfl, rfl⟩ := List.cons.inj split
        obtain ⟨⟨first, here⟩, all⟩ := List.forall_mem_cons.mp all
        exact .inr ⟨first, here, before, failing, after, rfl, all, there⟩

theorem warnings_forEach {run : α → Report β} (h : ∀ item ∈ items, (run item).Succeeds) :
    (forEach items run).warnings = items.flatMap fun item => (run item).warnings := by
  induction items with
  | nil => rfl
  | cons item rest ih =>
    obtain ⟨⟨_, first⟩, others⟩ := List.forall_mem_cons.mp h
    obtain ⟨_, later⟩ := succeeds_forEach_iff.mpr others
    rw [forEach, warnings_bind_of_ok first, warnings_bind_of_ok later, ih others]
    simp

theorem succeeds_forEach_const_iff {report : Report β} (h : items ≠ []) :
    (forEach items fun _ => report).Succeeds ↔ report.Succeeds := by
  rw [succeeds_forEach_iff]
  obtain ⟨item, mem⟩ := List.exists_mem_of_ne_nil items h
  exact ⟨fun all => all item mem, fun once _ _ => once⟩

theorem warnings_forEach_const {report : Report β} (h : report.Succeeds) :
    (forEach items fun _ => report).warnings =
      (List.replicate items.length report.warnings).flatten := by
  rw [warnings_forEach fun _ _ => h, List.flatMap_def, List.map_const']

theorem mem_of_forEach {run : α → Report β} {results : List β} {item : α} {result : β}
    (h : (forEach items run).outcome = .ok results) (mem : item ∈ items)
    (found : (run item).outcome = .ok result) : result ∈ results := by
  induction items generalizing results with
  | nil => simp at mem
  | cons head rest ih =>
    obtain ⟨first, here, h⟩ := outcome_bind_eq_ok_iff.mp h
    obtain ⟨others, there, h⟩ := outcome_bind_eq_ok_iff.mp h
    cases h
    rcases List.mem_cons.mp mem with rfl | mem
    · cases here.symm.trans found
      exact List.mem_cons_self
    · exact List.mem_cons_of_mem _ (ih there mem)

theorem each_of_succeeds (h : ∀ item ∈ items, (run item).Succeeds) :
    each items run =
      ⟨.ok (items.filterMap fun item => (run item).found),
        items.flatMap fun item => (run item).warnings⟩ := by
  induction items with
  | nil => rfl
  | cons item rest ih =>
    obtain ⟨first, others⟩ := List.forall_mem_cons.mp h
    rw [each, bind_of_ok first.outcome_found, ih others]
    cases hf : (run item).found <;> simp [bind_of_ok, hf]

theorem return_each_of_succeeds (f : List β → γ)
    (h : (do return f (← each items run) : Report γ).Succeeds) :
    (∀ item ∈ items, (run item).Succeeds) ∧
      (do return f (← each items run)) =
        ⟨.ok (f (items.filterMap fun item => (run item).found)),
          items.flatMap fun item => (run item).warnings⟩ := by
  obtain ⟨results, h, -⟩ := succeeds_bind_iff.mp h
  have all := succeeds_each_iff.mp ⟨results, h⟩
  refine ⟨all, ?_⟩
  rw [each_of_succeeds all, bind_of_ok rfl]
  simp

structure Part (α : Type) where
  value : α
  warnings : List Warning

def Part.report {α : Type} (part : Part α) : Report α :=
  ⟨.ok part.value, part.warnings⟩

def ofParts {α : Type} (parts : List (Part α)) : Report (List α) :=
  ⟨.ok (parts.map (·.value)), parts.flatMap (·.warnings)⟩

/-- Each part is what an operation does for an item. -/
def Splits {α β : Type} (items : List α) (run : α → Report β) (parts : List (Part β)) : Prop :=
  List.Forall₂ (fun item part => run item = part.report) items parts

section

variable {α β : Type} {items : List α} {run : α → Report β} {parts : List (Part β)}

theorem Splits.forEach_eq (h : Splits items run parts) : forEach items run = ofParts parts := by
  induction h with
  | nil => rfl
  | @cons item part rest others here _ ih =>
    have first : (run item).outcome = .ok part.value := congrArg outcome here
    have later : (forEach rest run).outcome = .ok (others.map (·.value)) := congrArg outcome ih
    rw [forEach, bind_of_ok first, bind_of_ok later, here, ih]
    simp [ofParts, Part.report]

theorem exists_splits (h : (forEach items run).Succeeds) : ∃ parts, Splits items run parts := by
  have all := succeeds_forEach_iff.mp h
  clear h
  induction items with
  | nil => exact ⟨[], .nil⟩
  | cons item rest ih =>
    obtain ⟨⟨value, here⟩, all⟩ := List.forall_mem_cons.mp all
    obtain ⟨parts, splits⟩ := ih all
    refine ⟨⟨value, (run item).warnings⟩ :: parts, .cons ?_ splits⟩
    rw [Part.report, ← here]

theorem Splits.filter {p : α → Bool} {q : Part β → Bool}
    (same : ∀ item part, run item = part.report → p item = q part) (h : Splits items run parts) :
    Splits (items.filter p) run (parts.filter q) := by
  refine List.rel_filter ?_ h
  intro item part here
  exact Bool.eq_iff_iff.mp (same item part here)

theorem Splits.map_eq {γ : Type} {f : α → γ} {f' : Part β → γ}
    (same : ∀ item part, run item = part.report → f' part = f item) (h : Splits items run parts) :
    parts.map f' = items.map f := by
  induction h with
  | nil => rfl
  | cons here _ ih => rw [List.map_cons, List.map_cons, same _ _ here, ih]

end

/-- Whether an operation fails, and what it warns of. -/
def effect (report : Report α) : Report Unit :=
  ⟨report.outcome.map fun _ => (), report.warnings⟩

section

variable {report : Report α} {other : Report β} {next : α → Report β}

theorem succeeds_effect_iff : report.effect.Succeeds ↔ report.Succeeds := by
  unfold effect Succeeds
  cases report.outcome <;> simp [Except.map]

theorem succeeds_iff_of_effect (h : report.effect = other.effect) :
    report.Succeeds ↔ other.Succeeds := by
  rw [← succeeds_effect_iff, h, succeeds_effect_iff]

theorem warnings_of_effect (h : report.effect = other.effect) :
    report.warnings = other.warnings :=
  congrArg Report.warnings h

theorem effect_of_ok {value : α} (h : report.outcome = .ok value) :
    report.effect = ⟨.ok (), report.warnings⟩ := by
  rw [effect, h]
  rfl

theorem effect_of_error {error : Error} (h : report.outcome = .error error) :
    report.effect = ⟨.error error, report.warnings⟩ := by
  rw [effect, h]
  rfl

theorem outcome_eq_error_of_effect {error : Error} (h : report.effect = other.effect)
    (fails : report.outcome = .error error) : other.outcome = .error error := by
  have same := congrArg outcome h
  rw [effect_of_error fails] at same
  cases h' : other.outcome with
  | ok value =>
    rw [effect_of_ok h'] at same
    cases same
  | error cause =>
    rw [effect_of_error h'] at same
    rw [Except.error.inj same]

@[simp] theorem effect_pure {value : α} : (pure value : Report α).effect = pure () := rfl

@[simp] theorem effect_bind : (report >>= next).effect = report >>= fun value => (next value).effect := by
  cases h : report.outcome with
  | ok value => simp only [bind_of_ok h, effect]
  | error error => simp only [bind_of_error h, effect, Except.map]

theorem bind_const {last : Report Unit} :
    (report >>= fun _ => last) = report.effect >>= fun _ => last := by
  cases h : report.outcome with
  | ok value => rw [bind_of_ok h, effect_of_ok h, bind_of_ok rfl]
  | error error => rw [bind_of_error h, effect_of_error h, bind_of_error rfl]

theorem effect_return {f : α → β} : (do return f (← report)).effect = report.effect :=
  effect_bind.trans return_eq

@[simp] theorem bind_pure_unit : (report >>= fun _ => pure ()) = report.effect :=
  return_eq

theorem effect_forEach {run : α → Report β} {run' : α → Report γ}
    (h : ∀ item ∈ items, (run item).effect = (run' item).effect) :
    (forEach items run).effect = (forEach items run').effect := by
  induction items with
  | nil => rfl
  | cons item rest ih =>
    obtain ⟨first, others⟩ := List.forall_mem_cons.mp h
    simp only [forEach, effect_bind, effect_pure, bind_pure_unit, ih others]
    rw [bind_const, first, ← bind_const]

end

end Typesmith.Report
