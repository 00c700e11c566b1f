import Typesmith.Error
import Typesmith.Warning

/-! # Reports

What an operation gives: a value or a failure, and the warnings recorded on the way. Warnings
recorded before a failure are kept.
-/

namespace Typesmith

structure Report (α : Type) where
  outcome : Except Error α
  warnings : List Warning

namespace Report

variable {α β : Type}

def fail (error : Error) : Report α := ⟨.error error, []⟩

def warn (warning : Warning) : Report Unit := ⟨.ok (), [warning]⟩

def ofExcept (outcome : Except Error α) : Report α := ⟨outcome, []⟩

/-- Goes on with the value, if there is one, after the warnings so far. -/
def andThen (report : Report α) (next : α → Report β) : Report β :=
  match report.outcome with
  | .ok value => ⟨(next value).outcome, report.warnings ++ (next value).warnings⟩
  | .error error => ⟨.error error, report.warnings⟩

instance : Monad Report where
  pure value := ⟨.ok value, []⟩
  bind := andThen

instance : MonadLift (Except Error) Report := ⟨ofExcept⟩

@[simp] theorem outcome_pure (value : α) : (pure value : Report α).outcome = .ok value := rfl

@[simp] theorem warnings_pure (value : α) : (pure value : Report α).warnings = [] := rfl

def recordedOn (report : Report α) (diagnostics : Diagnostics) : Except Error α × Diagnostics :=
  (report.outcome, diagnostics ++ report.warnings)

/-- Runs one operation per entry in order, up to the first failure. -/
def forEach (items : List α) (run : α → Report β) : Report (List β) :=
  match items with
  | [] => pure []
  | item :: rest => do
    let first ← run item
    let others ← forEach rest run
    return first :: others

/-- Runs what belongs to each name in order of name, and keeps the results that there are. -/
def collect : List (String × Report (Option α)) → Report (List α)
  | [] => pure []
  | (_, report) :: rest => do
    let found ← report
    let others ← collect rest
    return found.toList ++ others

end Report

end Typesmith
