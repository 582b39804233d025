import Questionnaire.Files.Path
import Questionnaire.Options

/-! Settings: all that can be configured. -/

namespace Questionnaire

structure Settings where
  rows : Nat
  placeholder : String
  method : String
  action : String
  submitLabel : String
  policy : Policy
  /-- The title of documents that are not given one. -/
  title : Option String
  /-- The path of a stylesheet for pages. -/
  customCss : Option String
deriving DecidableEq, Repr

namespace Settings

def fieldOptions (settings : Settings) : FieldOptions :=
  { defaultRows := settings.rows, placeholder := settings.placeholder }

def formOptions (settings : Settings) : FormOptions :=
  { method := settings.method, action := settings.action, submitLabel := settings.submitLabel }

/-- The title of a document: the one asked for, the configured one, or the stem of its file. -/
def documentTitle (settings : Settings) (input : String) (explicit : Option String) : String :=
  ((explicit <|> settings.title) <|> Path.stem? input).getD "form"

end Settings
end Questionnaire
