import Questionnaire.Page.Section
import Questionnaire.Style.Sheet

/-! The page of a document: its sections below a head with the stylesheet. -/

namespace Questionnaire

open Html Style

structure PageOptions where
  form : FormOptions := {}
  /-- A stylesheet that follows the built-in one. -/
  customCss : Option String := none
deriving DecidableEq, Repr

def pageHead (title : String) (customCss : Option String) : String :=
  "<!DOCTYPE html>\n" ++
  "<html lang=\"en\">\n" ++
  "<head>\n" ++
  "  <meta charset=\"UTF-8\">\n" ++
  "  <meta name=\"viewport\" content=\"width=device-width, initial-scale=1.0\">\n" ++
  "  <meta name=\"generator\" content=\"quizform\">\n" ++
  "  <title>" ++ escape title ++ "</title>\n" ++
  "  <style>\n" ++ sheet ++ "\n" ++ customCss.getD "" ++ "\n  </style>\n" ++
  "</head>\n" ++
  "<body>\n" ++
  "<div" ++ pageAttribute "class" documentClass ++ ">\n"

def pageHtml (markdown : String → String) (options : PageOptions) (document : Document) : String :=
  pageHead document.title options.customCss ++
    String.join (document.slides.map (sectionHtml markdown options.form)) ++
    "</div>\n</body>\n</html>"

end Questionnaire
