import Questionnaire.Document.Basic
import Questionnaire.Entries
import Questionnaire.Failure

/-! Formats: the ways to write a compiled document as text. -/

namespace Questionnaire

abbrev Parameters := Entries String String

structure Format where
  name : String
  description : String
  /-- File extensions, without the dot, by which the format is found. -/
  extensions : List String
  write : Document → Except Failure String
  writeWith : Document → Parameters → Except Failure String

def Format.plain (name : String) (extensions : List String)
    (write : Document → Except Failure String) : Format where
  name
  description := ""
  extensions
  write
  writeWith document parameters :=
    if parameters.isEmpty then write document
    else .error (.notSupported ("Format '" ++ name ++ "' does not support extra parameters"))

end Questionnaire
