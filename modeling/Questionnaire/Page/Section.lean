import Questionnaire.Document.Basic
import Questionnaire.Html.Escape
import Questionnaire.Options
import Questionnaire.Style.Class

/-! The section of a slide: its texts as Markdown and its fields as markup, in source order, inside
a form if there are fields. How Markdown becomes HTML is a parameter. -/

namespace Questionnaire

open Html Style

def pageAttribute (name value : String) : String :=
  " " ++ name ++ "=\"" ++ escape value ++ "\""

/-- The tag that opens the form of a slide. An empty action is left out. -/
def formTag (scope : String) (form : FormOptions) : String :=
  "<form" ++ pageAttribute "id" scope ++ pageAttribute "class" formClass ++
    pageAttribute "method" form.method ++
    (if form.action.isEmpty then "" else pageAttribute "action" form.action) ++ ">"

def submitButton (label : String) : String :=
  if label.isEmpty then "" else "<button type=\"submit\">" ++ escape label ++ "</button>\n"

def wrapForm (scope body : String) (form : FormOptions) : String :=
  formTag scope form ++ "\n" ++ body ++ submitButton form.submitLabel ++ "</form>\n"

/-- The HTML of a run of texts, which are one Markdown source with blank lines between them. -/
def flushTexts (markdown : String → String) (texts : List String) : String :=
  if texts.isEmpty then "" else markdown ("\n\n".intercalate texts)

/-- The HTML of blocks behind a run of texts that has not been written yet. -/
def blocksHtml (markdown : String → String) (texts : List String) : List Block → String
  | [] => flushTexts markdown texts
  | .text content :: rest => blocksHtml markdown (texts ++ [content]) rest
  | .field compiled :: rest =>
    flushTexts markdown texts ++ compiled.markup ++ "\n" ++ blocksHtml markdown [] rest

def sectionHtml (markdown : String → String) (form : FormOptions) (slide : Slide) : String :=
  let content := blocksHtml markdown [] slide.blocks
  let inner := if slide.hasFields then wrapForm slide.scope content form else content
  "<section" ++ pageAttribute "class" slideClass ++ pageAttribute "data-slide" slide.scope ++
    ">\n" ++ inner ++ "</section>\n"

end Questionnaire
