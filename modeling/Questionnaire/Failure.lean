/-! The errors of compiling and writing documents, and their wording. A block that is no field and
a right-hand side that no grammar reads are not errors. -/

namespace Questionnaire

inductive Failure where
  /-- The header of a field was read, but a number in its right-hand side cannot be used. -/
  | malformedField (field reason : String)
  /-- No format has the name. -/
  | formatNotFound (name : String)
  /-- A format could not write the document. -/
  | unwritable (reason : String)
  /-- A format does not know what was asked of it. -/
  | notSupported (reason : String)
deriving DecidableEq, Repr

namespace Failure

def message : Failure → String
  | malformedField field reason => "Malformed field '" ++ field ++ "': " ++ reason
  | formatNotFound name => "Format '" ++ name ++ "' not found"
  | unwritable reason => "Serialization error: " ++ reason
  | notSupported reason => "Operation not supported: " ++ reason

/-- The id of the field at fault, if the error is about one. -/
def field? : Failure → Option String
  | malformedField field _ => some field
  | _ => none

end Failure

/-- Two steps succeed just if the first one does, and the second one with its value. -/
theorem Except.bind_eq_ok_iff {ε α β : Type} {answer : Except ε α} {next : α → Except ε β}
    {result : β} : (answer >>= next) = .ok result ↔
      ∃ value, answer = .ok value ∧ next value = .ok result := by
  cases answer with
  | error reason => exact ⟨nofun, nofun⟩
  | ok value => exact ⟨fun h => ⟨value, rfl, h⟩, fun ⟨_, same, h⟩ => Except.ok.inj same ▸ h⟩

end Questionnaire
