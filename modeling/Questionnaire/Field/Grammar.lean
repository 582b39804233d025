import Questionnaire.Failure
import Questionnaire.Field.OptionLine
import Questionnaire.Options
import Questionnaire.Text.Number
import Questionnaire.Text.Numeral

/-! The grammars of right-hand sides. They form an ordered table of named rules, and the first rule
that applies decides. Only `[1]` and its like are read by two of them, as a text area and as a
marker. -/

namespace Questionnaire

open Text

/-- Everything that a rule may look at. -/
structure RuleInput where
  header : FieldHeader
  rhs : List Char
  /-- The lines below the header. -/
  body : List (List Char)
  options : FieldOptions

/-- A rule does not apply, gives an element, or fails on a number. -/
abbrev RuleAnswer := Except Failure (Option Element)

structure Rule where
  name : String
  kind : ElementKind
  apply : RuleInput → RuleAnswer

/-- The value of a run of digits that gives a size. `what` names the size in the error. -/
def RuleInput.size (input : RuleInput) (what : String) (digits : List Char) : Except Failure Nat :=
  match readNumeral maxWord32 digits with
  | .ok n => .ok n
  | .error fault =>
    .error (.malformedField input.header.id
      (what ++ " '" ++ String.ofList digits ++ "' in '" ++ String.ofList input.rhs ++
        "' is not usable: " ++ fault.message))

/-- The digits, possibly none, that stand alone between square brackets. -/
def digitsInBrackets? : List Char → Option (List Char)
  | '[' :: rest => do
    let inner ← cutLast ']' rest
    let digits := trim inner
    guard (digits.all isDecimalDigit)
    return digits
  | _ => none

namespace Rule

/-- A text area with its rows: `[ ]` or `[5]`. -/
def textArea (input : RuleInput) : RuleAnswer :=
  match digitsInBrackets? input.rhs with
  | none => .ok none
  | some [] => .ok (some (.textArea input.options.defaultRows))
  | some digits => do
    let rows ← input.size "row count" digits
    return some (.textArea rows)

/-- A line of text with its width: `___` or `___[50]`. -/
def textInput (input : RuleInput) : RuleAnswer :=
  if (input.rhs.takeWhile (· = '_')).length < 3 then .ok none
  else
    match input.rhs.dropWhile (· = '_') with
    | [] => .ok (some (.textInput none))
    | rest =>
      match digitsInBrackets? rest with
      | none | some [] => .ok none
      | some digits => do
        let width ← input.size "width" digits
        return some (.textInput (some width))

/-- One choice of several: `(x) A () B`. -/
def radioSet (input : RuleInput) : RuleAnswer :=
  if (Bracket.round.leadingToken? input.rhs).isSome then
    .ok (some (.radioSet (markedChoices input.rhs .round)))
  else .ok none

/-- Any choices of several: `[x] A [ ] B`. -/
def checkboxSet (input : RuleInput) : RuleAnswer :=
  if (Bracket.square.leadingToken? input.rhs).isSome then
    .ok (some (.checkboxSet (markedChoices input.rhs .square)))
  else .ok none

def inBraces? : List Char → Option (List Char)
  | '{' :: rest => do
    let inner ← cutLast '}' rest
    guard (isOneLine inner)
    return inner
  | _ => none

/-- A select with its options on the header line: `{BOS, [SFO], (NYC)}`. -/
def inlineSelect (input : RuleInput) : RuleAnswer :=
  .ok ((inBraces? input.rhs).map fun inner => .inlineSelect (inlineOptions inner))

/-- An opening brace alone: a select with its options on the lines below. -/
def blockSelect (input : RuleInput) : RuleAnswer :=
  if input.rhs = ['{'] then .ok (some (.blockSelect (blockOptions input.body))) else .ok none

/-- Nothing at all: a list with its choices on the lines below. -/
def bareList (input : RuleInput) : RuleAnswer :=
  if input.rhs.isEmpty then .ok (some (.bareList (listEntries input.body))) else .ok none

/-- The rules in the order in which they are tried. -/
def table : List Rule := [
  ⟨"textarea", .textArea, textArea⟩,
  ⟨"text", .textInput, textInput⟩,
  ⟨"radio_set", .radioSet, radioSet⟩,
  ⟨"checkbox_set", .checkboxSet, checkboxSet⟩,
  ⟨"select_inline", .inlineSelect, inlineSelect⟩,
  ⟨"select_multiline", .blockSelect, blockSelect⟩,
  ⟨"bare_list", .bareList, bareList⟩]

def find? (name : String) : Option Rule := table.find? fun rule => rule.name = name

/-- The answer of the first rule that applies, be it an element or an error. -/
def firstAnswer : List Rule → RuleInput → RuleAnswer
  | [], _ => .ok none
  | rule :: rest, input =>
    match rule.apply input with
    | .ok none => firstAnswer rest input
    | answer => answer

end Rule

/-- The element of a field. A right-hand side that no rule reads is unmatched. -/
def classify (header : FieldHeader) (body : List String) (options : FieldOptions) :
    Except Failure Element :=
  let input : RuleInput :=
    { header, rhs := trim header.rhs.toList, body := body.map String.toList, options }
  (Rule.firstAnswer Rule.table input).map fun answer => answer.getD .unmatched

end Questionnaire
