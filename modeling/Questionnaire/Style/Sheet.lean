import Questionnaire.Style.Class

/-! The stylesheet that every page carries, as rules and as text. -/

namespace Questionnaire.Style

/-- Declarations for the elements that one of the selectors finds. -/
structure SheetRule where
  selectors : List String
  declarations : List (String × String)
deriving DecidableEq, Repr

def dot (className : String) : String := "." ++ className

def sheetRules : List SheetRule := [
  ⟨[dot documentClass],
    [("max-width", "48rem"), ("margin", "0 auto"), ("padding", "1.5rem"),
      ("font-family", "Helvetica, Arial, sans-serif"), ("line-height", "1.5")]⟩,
  ⟨[dot slideClass], [("margin-bottom", "2.5rem")]⟩,
  ⟨[dot formClass], [("display", "flex"), ("flex-direction", "column"), ("gap", "1rem")]⟩,
  ⟨[dot fieldClass],
    [("display", "flex"), ("flex-wrap", "wrap"), ("align-items", "baseline"),
      ("gap", "0.5rem 1rem")]⟩,
  ⟨[dot labelClass], [("font-weight", "600"), ("flex-basis", "100%")]⟩,
  ⟨[dot requiredClass ++ " > " ++ dot labelClass ++ "::after"],
    [("content", "\" *\""), ("color", "#b00020")]⟩,
  ⟨[dot choiceClass],
    [("display", "inline-flex"), ("align-items", "baseline"), ("gap", "0.25rem")]⟩,
  ⟨[dot unmatchedClass ++ " > " ++ dot labelClass], [("color", "#666"), ("font-style", "italic")]⟩,
  ⟨[dot fieldClass ++ " textarea", dot fieldClass ++ " select",
      dot fieldClass ++ " input[type=\"text\"]"],
    [("font", "inherit"), ("padding", "0.25rem 0.5rem")]⟩,
  ⟨[dot fieldClass ++ " textarea"], [("width", "100%")]⟩]

/-- A rule as text: selectors a line each, declarations indented between braces. -/
def SheetRule.text (rule : SheetRule) : String :=
  ",\n".intercalate rule.selectors ++ " \x7b\n" ++
    String.join (rule.declarations.map fun (property, value) =>
      "  " ++ property ++ ": " ++ value ++ ";\n") ++ "\x7d\n"

def sheet : String :=
  "/* quizform baseline stylesheet */\n" ++
    String.join (sheetRules.map fun rule => "\n" ++ rule.text)

end Questionnaire.Style
