import Questionnaire.Field.Basic
import Questionnaire.Text.Blank
import Questionnaire.Text.Cut
import Questionnaire.Text.Lines
import Questionnaire.Text.Word

/-! The header line of a field, `code [-> name] [*]= rhs`. The first equals sign ends the left
part, and a star directly before it marks the field as required. -/

namespace Questionnaire

open Text

/-- What stands to the left of the equals sign. -/
structure HeaderLeft where
  code : List Char
  /-- Empty where no name is given. -/
  name : List Char
  required : Bool
deriving DecidableEq, Repr

def cutStar (text : List Char) : List Char × Bool :=
  match cutLast '*' text with
  | some before => (before, true)
  | none => (text, false)

/-- Read the left part: a word, then nothing or an arrow and a name. -/
def HeaderLeft.read? (text : List Char) : Option HeaderLeft :=
  let (body, required) := cutStar text
  let start := trimStart body
  let code := start.takeWhile isWord
  if code.isEmpty then none
  else
    match trimStart (start.dropWhile isWord) with
    | [] => some ⟨code, [], required⟩
    | '-' :: '>' :: name => some ⟨code, trim name, required⟩
    | _ => none

/-- Read a header line. The text behind the equals sign must be one line. -/
def FieldHeader.read? (line scope : String) : Option FieldHeader := do
  let (leftText, rhs) ← cutAt '=' line.toList
  guard (isOneLine rhs)
  let left ← HeaderLeft.read? leftText
  let code := String.ofList left.code
  return {
    id := scope ++ "_" ++ code
    code
    name := if left.name.isEmpty then code else String.ofList left.name
    required := left.required
    rhs := String.ofList (trim rhs)
    source := line }

/-- Read a block: its first line is the header, the others are the body. -/
def FieldHeader.readBlock? (block scope : String) : Option (FieldHeader × List String) :=
  match lines block.toList with
  | [] => none
  | first :: body =>
    (FieldHeader.read? (String.ofList first) scope).map fun header =>
      ({ header with source := block }, body.map String.ofList)

end Questionnaire
