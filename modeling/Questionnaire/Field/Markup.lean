import Questionnaire.Field.Basic
import Questionnaire.Html.Node
import Questionnaire.Options
import Questionnaire.Style.Class

/-! The markup of a field: a container with its label and its controls. -/

namespace Questionnaire

open Html Style

namespace Markup

def labelFor (controlId name : String) : Node :=
  .element "label" [⟨"class", labelClass⟩, ⟨"for", controlId⟩] [.text name]

/-- A label for a group of controls, or for none. -/
def groupLabel (name : String) : Node :=
  .element "span" [⟨"class", labelClass⟩] [.text name]

def choice (header : FieldHeader) (control : Control) (choice : Choice) : Node :=
  let id := header.choiceId choice.value
  let classes := if choice.correct then choiceClass ++ " " ++ correctClass else choiceClass
  let checked := if choice.selected then [⟨"checked", ""⟩] else []
  .element "span" [⟨"class", classes⟩] [
    .void "input"
      ([⟨"type", control.inputType⟩, ⟨"id", id⟩,
        ⟨"name", control.submissionName header.code⟩, ⟨"value", choice.value⟩] ++ checked),
    .element "label" [⟨"for", id⟩] [.text choice.label]]

/-- The option that opens a select. It cannot be chosen, and it stands selected as long as nothing
else is. -/
def placeholder (choices : List Choice) (label : String) : Node :=
  let selected := if choices.any Choice.selected then [] else [⟨"selected", ""⟩]
  .element "option" ([⟨"value", ""⟩, ⟨"disabled", ""⟩] ++ selected)
    (if label.isEmpty then [] else [.text label])

/-- An option of a select. Right answers show only where `marksCorrect` holds. -/
def option (marksCorrect : Bool) (choice : Choice) : Node :=
  let selected := if choice.selected then [⟨"selected", ""⟩] else []
  let correct := if marksCorrect && choice.correct then [⟨"class", correctClass⟩] else []
  .element "option" ([⟨"value", choice.value⟩] ++ selected ++ correct) [.text choice.label]

def select (header : FieldHeader) (choices : List Choice) (options : FieldOptions)
    (marksCorrect : Bool) : List Node := [
  labelFor header.controlId header.name,
  .element "select" [⟨"id", header.controlId⟩, ⟨"name", header.code⟩]
    (placeholder choices options.placeholder :: choices.map (option marksCorrect))]

def content (header : FieldHeader) (element : Element) (options : FieldOptions) : List Node :=
  match element with
  | .textInput width => [
      labelFor header.controlId header.name,
      .void "input"
        ([⟨"type", "text"⟩, ⟨"id", header.controlId⟩, ⟨"name", header.code⟩] ++
          (width.map fun n => ⟨"size", toString n⟩).toList)]
  | .textArea rows => [
      labelFor header.controlId header.name,
      .element "textarea"
        [⟨"id", header.controlId⟩, ⟨"name", header.code⟩, ⟨"rows", toString rows⟩] []]
  | .radioSet choices => groupLabel header.name :: choices.map (choice header .radio)
  | .checkboxSet choices => groupLabel header.name :: choices.map (choice header .checkbox)
  | .bareList entries =>
      groupLabel header.name :: entries.map fun entry => choice header entry.control entry.choice
  | .inlineSelect choices => select header choices options false
  | .blockSelect choices => select header choices options true
  | .unmatched => [groupLabel header.name]

def containerClasses (header : FieldHeader) (element : Element) : String :=
  fieldClass ++ (if header.required then " " ++ requiredClass else "") ++
    (if element = .unmatched then " " ++ unmatchedClass else "")

def field (header : FieldHeader) (element : Element) (options : FieldOptions) : Node :=
  .element "div"
    [⟨"id", header.id⟩, ⟨"class", containerClasses header element⟩, ⟨"data-code", header.code⟩]
    (content header element options)

end Markup

def renderField (header : FieldHeader) (element : Element) (options : FieldOptions) : String :=
  (Markup.field header element options).render

end Questionnaire
