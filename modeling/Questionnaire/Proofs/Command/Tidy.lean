import Questionnaire.Command.Run

/-! # Failures leave no trace

A run that fails prints nothing, and it has written nothing: the one file that a run writes comes
last. This is so however the files that it asks for turn out.
-/

namespace Questionnaire.Command

namespace Session

/-- Sessions of which a failure prints nothing, and which only print behind a file they have
written. -/
inductive Tidy : Session → Prop
  | done {outcome : Outcome} (silent : outcome.status = .failure → outcome.output = "") :
      Tidy (.done outcome)
  | read {path : String} {next : Except FileFault ByteArray → Session}
      (further : ∀ result, Tidy (next result)) : Tidy (.read path next)
  | write {path text : String} {next : Except FileFault Unit → Session}
      (written : ∃ output log, next (.ok ()) = .print output log)
      (refused : ∀ fault, Tidy (next (.error fault))) : Tidy (.write path text next)

/-- A tidy session that fails leaves no trace. -/
theorem Tidy.run {session : Session} (h : session.Tidy) (directory : Directory)
    (failed : (session.run directory).1.status = .failure) :
    (session.run directory).1.output = "" ∧ (session.run directory).2 = directory := by
  induction h with
  | done silent => exact ⟨silent failed, rfl⟩
  | read further ih => exact ih _ failed
  | @write path text next written refused ih =>
    rw [Session.run] at failed ⊢
    split at failed
    · obtain ⟨output, log, ended⟩ := written
      rw [ended] at failed
      cases failed
    · exact ih _ failed

end Session

open Session

/-! ## The parts of a run -/

section

variable {platform : Platform} {name input : String} {title output : Option String}

variable {settings : Settings}

end

end Questionnaire.Command
