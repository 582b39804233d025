import Questionnaire.Format.Basic
import Questionnaire.Json.Document
import Questionnaire.Markdown.Html
import Questionnaire.Page.Basic

/-! The two formats that every registry starts with: a standalone page and a JSON dump. -/

namespace Questionnaire

/-- Apply the parameters of a page one by one. The first unknown one is an error. -/
def PageOptions.withParameters (options : PageOptions) : Parameters → Except Failure PageOptions
  | [] => .ok options
  | (name, value) :: rest =>
    if name = "method" then
      PageOptions.withParameters { options with form.method := value } rest
    else if name = "action" then
      PageOptions.withParameters { options with form.action := value } rest
    else if name = "submit-label" then
      PageOptions.withParameters { options with form.submitLabel := value } rest
    else .error (.notSupported ("Unknown html parameter '" ++ name ++ "'"))

def writePage (options : PageOptions) (document : Document) : String :=
  pageHtml Markdown.toHtml options document

def Format.html (options : PageOptions) : Format where
  name := "html"
  description := "HTML5 page with forms and embedded CSS"
  extensions := ["html", "htm"]
  write document := .ok (writePage options document)
  writeWith document parameters :=
    (options.withParameters parameters).map fun options => writePage options document

/-- The parameter that leaves all but the fields out of a dump. -/
def fieldsOnly : String := "fields-only"

def Format.json : Format where
  name := "json"
  description := "Compiled document as JSON"
  extensions := ["json"]
  write document := .ok document.toJson.pretty
  writeWith document parameters :=
    if parameters.any fun (name, _) => name ≠ fieldsOnly then
      .error (.notSupported ("json only accepts the '" ++ fieldsOnly ++ "' parameter"))
    else if parameters.lookup fieldsOnly = some "true" then .ok document.fieldReport.pretty
    else .ok document.toJson.pretty

end Questionnaire
