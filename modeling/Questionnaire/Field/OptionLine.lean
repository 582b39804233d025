import Questionnaire.Field.Choices
import Questionnaire.Text.Lines

/-! Choices on lines of their own, below the header: the options of a block select and the entries
of a bare list. A line is `value -> label` or a value alone, bare or in brackets around the whole.
-/

namespace Questionnaire

open Text

/-- The shortest value that can stand before an arrow: what precedes it without the blanks at the
end, or one blank where there is nothing else. `seen` is read backwards. -/
def shortestValue (seen : List Char) : List Char :=
  match seen.dropWhile isBlank with
  | [] => seen.getLast?.toList
  | value => value.reverse

/-- The label that stands behind an arrow: what follows it without the blanks at the start, or one
blank where there is nothing else. -/
def longestLabel (after : List Char) : List Char :=
  match trimStart after with
  | [] => after.getLast?.toList
  | label => label

/-- Whether an arrow parts a value from a label: both are there and neither runs over a line. -/
def parts (seen after : List Char) : Bool :=
  let value := shortestValue seen
  let label := longestLabel after
  !value.isEmpty && isOneLine value && !label.isEmpty && isOneLine label

/-- Value and label around the first arrow that parts them, both trimmed. `seen` is what precedes
the text, read backwards. -/
def partAtArrow? (seen : List Char) : List Char → Option (List Char × List Char)
  | [] => none
  | c :: rest =>
    match rest with
    | d :: after =>
      if c = '-' && d = '>' && parts seen after then some (trim seen.reverse, trim after)
      else partAtArrow? (c :: seen) rest
    | [] => none

/-- Value and label of an option: parted by an arrow, or one text for both. -/
def optionTexts? (text : List Char) : Option (List Char × List Char) :=
  match partAtArrow? [] text with
  | some (c :: value, label) => some (c :: value, label)
  | _ =>
    let value := trim text
    if value.isEmpty || !isOneLine text then none else some (value, value)

/-- An option line: the brackets around it, if any, and its choice without flags. -/
structure OptionLine where
  wrapping : Option Bracket
  choice : Choice
deriving DecidableEq, Repr

namespace OptionLine

/-- Read a trimmed line. A line that opens with a bracket must end with its counterpart. -/
def read? : List Char → Option OptionLine
  | [] => none
  | c :: rest => do
    let wrapping := Bracket.ofOpening? c
    let text ←
      match wrapping with
      | some bracket => cutLast bracket.closing rest
      | none => some (c :: rest)
    let (value, label) ← optionTexts? text
    return ⟨wrapping, { value := String.ofList value, label := String.ofList label }⟩

/-- The choice with its flags: round brackets select, square ones mark a right answer. -/
def flagged (line : OptionLine) : Choice :=
  line.choice.withFlags ⟨line.wrapping = some .round, line.wrapping = some .square⟩

end OptionLine

/-- The options of a block select, up to a line with a closing brace alone. Lines that are no
options are passed over. -/
def blockOptions (body : List (List Char)) : List Choice :=
  (((body.map trim).takeWhile (· ≠ ['}'])).filterMap OptionLine.read?).map OptionLine.flagged

def Bracket.control : Bracket → Control
  | round => .radio
  | square => .checkbox

/-- The choice of a line that starts with a marker, such as `(x) Yes`. The text behind the bracket
of `readToken?` must not be blank, and the brackets must belong together. -/
def markedLine? (bracket : Bracket) (rest : List Char) : Option Choice := do
  let read ← readToken? (fun c => c = ')' || c = ']') rest
  let text := trimStart read.after
  guard (!text.isEmpty && isOneLine text && read.closing = bracket.closing)
  return (Choice.ofText text).withFlags (Flags.ofToken read.token)

/-- The entry of a trimmed line, which must open with a bracket: a marker and a text, or an option
in brackets. -/
def listEntry? : List Char → Option ListEntry
  | [] => none
  | c :: rest => do
    let bracket ← Bracket.ofOpening? c
    let choice ← markedLine? bracket rest <|> (OptionLine.read? (c :: rest)).map OptionLine.flagged
    return ⟨bracket.control, choice⟩

/-- The entries of a bare list. Lines that are no entries are passed over. -/
def listEntries (body : List (List Char)) : List ListEntry :=
  (body.map trim).filterMap listEntry?

end Questionnaire
