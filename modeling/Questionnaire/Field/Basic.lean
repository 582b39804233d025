/-! Fields: the header that names one, the choices it offers, and the element it is drawn as. -/

namespace Questionnaire

/-- What the first line of a field says. -/
structure FieldHeader where
  /-- Scope and code joined by an underscore; every id of the field starts with it. -/
  id : String
  /-- The name under which the field is submitted. -/
  code : String
  /-- The label shown to a reader. -/
  name : String
  required : Bool
  /-- The text behind the equals sign, trimmed. -/
  rhs : String
  /-- The whole block the field was read from. -/
  source : String
deriving DecidableEq, Repr

namespace FieldHeader

/-- The id of the one control of a text or select field. -/
def controlId (header : FieldHeader) : String := header.id ++ "-input"

def choiceId (header : FieldHeader) (value : String) : String := header.id ++ "_" ++ value

end FieldHeader

structure Choice where
  /-- What is submitted. -/
  value : String
  /-- What is shown. -/
  label : String
  /-- Chosen from the start. -/
  selected : Bool := false
  /-- Marked as a right answer. -/
  correct : Bool := false
deriving DecidableEq, Repr

/-- The control that a choice of a set is drawn as. -/
inductive Control where
  | radio
  | checkbox
deriving DecidableEq, Repr

namespace Control

def inputType : Control → String
  | radio => "radio"
  | checkbox => "checkbox"

/-- The name under which a field code is submitted: check boxes submit a list. -/
def submissionName : Control → String → String
  | radio, code => code
  | checkbox, code => code ++ "[]"

end Control

/-- A choice of a bare list, which brings its own control. -/
structure ListEntry where
  control : Control
  choice : Choice
deriving DecidableEq, Repr

inductive ElementKind where
  | textInput
  | textArea
  | radioSet
  | checkboxSet
  | inlineSelect
  | blockSelect
  | bareList
  | unmatched
deriving DecidableEq, Repr

def ElementKind.tag : ElementKind → String
  | textInput => "text"
  | textArea => "textarea"
  | radioSet => "radio-set"
  | checkboxSet => "checkbox-set"
  | inlineSelect => "select-inline"
  | blockSelect => "select-multiline"
  | bareList => "bare-list"
  | unmatched => "unmatched"

/-- What a field is drawn as. -/
inductive Element where
  | textInput (width : Option Nat)
  | textArea (rows : Nat)
  | radioSet (choices : List Choice)
  | checkboxSet (choices : List Choice)
  /-- A select whose options stand on the header line. -/
  | inlineSelect (choices : List Choice)
  /-- A select whose options stand on lines of their own. -/
  | blockSelect (choices : List Choice)
  | bareList (entries : List ListEntry)
  /-- No grammar reads the right-hand side: only the label is drawn. -/
  | unmatched
deriving DecidableEq, Repr

namespace Element

def kind : Element → ElementKind
  | textInput _ => .textInput
  | textArea _ => .textArea
  | radioSet _ => .radioSet
  | checkboxSet _ => .checkboxSet
  | inlineSelect _ => .inlineSelect
  | blockSelect _ => .blockSelect
  | bareList _ => .bareList
  | unmatched => .unmatched

def choices : Element → List Choice
  | radioSet choices | checkboxSet choices | inlineSelect choices | blockSelect choices => choices
  | bareList entries => entries.map ListEntry.choice
  | textInput _ | textArea _ | unmatched => []

end Element
end Questionnaire
