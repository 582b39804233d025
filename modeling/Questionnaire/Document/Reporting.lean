import Questionnaire.Document.Diagnostic
import Questionnaire.Failure

/-! Computations that report about fields while they run. Reports are only ever added, and what was
reported before an error stays reported. -/

namespace Questionnaire

/-- A computation as it went: its value or the error that ended it, and what it reported. -/
structure Reporting (α : Type) where
  result : Except Failure α
  diagnostics : List Diagnostic

namespace Reporting

variable {α β : Type}

instance : Monad Reporting where
  pure value := ⟨.ok value, []⟩
  bind part next :=
    match part.result with
    | .ok value =>
      let rest := next value
      ⟨rest.result, part.diagnostics ++ rest.diagnostics⟩
    | .error failure => ⟨.error failure, part.diagnostics⟩

def report (diagnostic : Diagnostic) : Reporting Unit := ⟨.ok (), [diagnostic]⟩

def silent (result : Except Failure α) : Reporting α := ⟨result, []⟩

/-- Go on with the outcome of a computation, also when it is an error. -/
def attempt (part : Reporting α) : Reporting (Except Failure α) := ⟨.ok part.result, part.diagnostics⟩

@[simp] theorem pure_eq (value : α) : (pure value : Reporting α) = ⟨.ok value, []⟩ := rfl

/-- What follows a value adds its reports behind those of the value. -/
@[simp] theorem ok_bind (value : α) (reports : List Diagnostic) (next : α → Reporting β) :
    (⟨.ok value, reports⟩ : Reporting α) >>= next =
      ⟨(next value).result, reports ++ (next value).diagnostics⟩ := rfl

/-- Nothing follows an error. -/
@[simp] theorem error_bind (failure : Failure) (reports : List Diagnostic)
    (next : α → Reporting β) :
    (⟨.error failure, reports⟩ : Reporting α) >>= next = ⟨.error failure, reports⟩ := rfl

end Reporting
end Questionnaire
