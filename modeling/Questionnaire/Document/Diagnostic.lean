/-! Reports about single fields, made while a document is compiled. -/

namespace Questionnaire

inductive Severity where
  | warning
  | error
deriving DecidableEq, Repr

def Severity.word : Severity → String
  | warning => "warning"
  | error => "error"

structure Diagnostic where
  severity : Severity
  fieldId : String
  message : String
deriving DecidableEq, Repr

def Diagnostic.line (diagnostic : Diagnostic) : String :=
  diagnostic.severity.word ++ " [" ++ diagnostic.fieldId ++ "]: " ++ diagnostic.message

end Questionnaire
