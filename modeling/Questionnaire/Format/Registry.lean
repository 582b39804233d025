import Questionnaire.Files.Path
import Questionnaire.Format.Builtin

/-! Registries: formats by name. A format takes the place of one with the same name, and the names
ascend, so every answer depends on the last registrations only. -/

namespace Questionnaire

/-- Formats in ascending order of their names. -/
structure Registry where
  formats : List Format

namespace Registry

def empty : Registry := ⟨[]⟩

def insertByName (format : Format) : List Format → List Format
  | [] => [format]
  | other :: rest =>
    if format.name < other.name then format :: other :: rest
    else if other.name < format.name then other :: insertByName format rest
    else format :: rest

/-- Register a format, in the place of one with its name. -/
def register (registry : Registry) (format : Format) : Registry :=
  ⟨insertByName format registry.formats⟩

def default : Registry := (empty.register (.html {})).register .json

def names (registry : Registry) : List String := registry.formats.map Format.name

def get? (registry : Registry) (name : String) : Option Format :=
  registry.formats.find? fun format => format.name = name

def get (registry : Registry) (name : String) : Except Failure Format :=
  match registry.get? name with
  | some format => .ok format
  | none => .error (.formatNotFound name)

def has (registry : Registry) (name : String) : Bool := (registry.get? name).isSome

/-- The first name, in ascending order, whose format has the extension of a file. -/
def detect? (registry : Registry) (fileName : String) : Option String := do
  let extension ← Path.extension? fileName
  let format ← registry.formats.find? fun format => format.extensions.contains extension
  return format.name

def write (registry : Registry) (document : Document) (name : String) : Except Failure String := do
  (← registry.get name).write document

def writeWith (registry : Registry) (document : Document) (name : String)
    (parameters : Parameters) : Except Failure String := do
  (← registry.get name).writeWith document parameters

end Registry
end Questionnaire
