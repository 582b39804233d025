import Questionnaire.Field.Basic
import Questionnaire.Field.Marker
import Questionnaire.Text.Blank
import Questionnaire.Text.Cut

/-! Choices written on the header line: marked choices `(x) A () B` of a set, and the options
`{BOS, [SFO], (NYC)}` of an inline select. -/

namespace Questionnaire

open Text

/-- Split `value -> label`. A side that is missing or blank takes the other's text. -/
def valueAndLabel (text : List Char) : List Char × List Char :=
  match cutAtArrow text with
  | none => (trim text, trim text)
  | some (before, after) =>
    let value := trim before
    let label := trim after
    if value.isEmpty then (label, label)
    else if label.isEmpty then (value, value)
    else (value, label)

def Choice.ofText (text : List Char) : Choice :=
  let (value, label) := valueAndLabel text
  { value := String.ofList value, label := String.ofList label }

def Choice.withFlags (choice : Choice) (flags : Flags) : Choice :=
  { choice with selected := flags.selected, correct := flags.correct }

/-- The choice of a marker, unless no text follows it. -/
def MarkedText.choice? (marked : MarkedText) : Option Choice :=
  let text := trim marked.text
  if text.isEmpty then none
  else some ((Choice.ofText text).withFlags (Flags.ofToken marked.token))

/-- The choices of a set, one for each marker with a text. -/
def markedChoices (rhs : List Char) (bracket : Bracket) : List Choice :=
  (bracket.markedTexts rhs).filterMap MarkedText.choice?

/-- The trimmed text between a bracket at the start and its counterpart at the end. -/
def unwrap? : List Char → Option (List Char)
  | [] => none
  | c :: rest => do
    let bracket ← Bracket.ofOpening? c
    let inner ← cutLast bracket.closing rest
    return trim inner

/-- The option that a trimmed token describes. Either kind of brackets around it selects it. -/
def inlineOption? (token : List Char) : Option Choice :=
  let (text, selected) :=
    match unwrap? token with
    | some inner => (inner, true)
    | none => (token, false)
  let choice := Choice.ofText text
  if choice.value.isEmpty then none else some { choice with selected }

/-- The options of an inline select: the tokens between commas, blank ones left out. -/
def inlineOptions (inner : List Char) : List Choice :=
  ((splitAt ',' inner).map trim).filterMap fun token =>
    if token.isEmpty then none else inlineOption? token

end Questionnaire
