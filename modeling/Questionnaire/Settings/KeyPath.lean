import Questionnaire.Settings.Value
import Questionnaire.Text.Blank
import Questionnaire.Text.Numeral

/-! Paths to configuration values, such as `form.method`: names with dots between them, and indices
in square brackets. -/

namespace Questionnaire

open Text

inductive KeyStep where
  | member (key : String)
  | item (index : Int)
deriving DecidableEq, Repr

abbrev KeyPath := List KeyStep

namespace KeyPath

def isNameChar (c : Char) : Bool := c.isAlphanum || c = '_' || c = '-' || c = ' '

/-- An index between brackets, which blanks may surround. -/
def readIndex? (text : List Char) : Option Int :=
  let isSpace := fun c : Char => c = ' ' || c = '\t'
  match dropEndWhile isSpace (text.dropWhile isSpace) with
  | '-' :: rest => (readNumber? rest).map fun n => -(n : Int)
  | digits => (readNumber? digits).map Int.ofNat
where
  readNumber? (digits : List Char) : Option Nat :=
    match digits with
    | [] => none
    | '+' :: _ => none
    | _ => (readNumeral maxInt64 digits).toOption

def readSteps? : List Char → Option KeyPath
  | [] => some []
  | '.' :: rest =>
    let name := rest.takeWhile isNameChar
    if name.isEmpty then none
    else (readSteps? (rest.dropWhile isNameChar)).map (.member (String.ofList name) :: ·)
  | '[' :: rest =>
    if rest.contains ']' then do
      let index ← readIndex? (rest.takeWhile (· ≠ ']'))
      return .item index :: (← readSteps? (rest.dropWhile (· ≠ ']')).tail)
    else none
  | _ => none
termination_by text => text.length
decreasing_by
  · exact Nat.lt_succ_of_le (List.dropWhile_suffix _).length_le
  · exact Nat.lt_succ_of_le ((List.tail_suffix _).trans (List.dropWhile_suffix _)).length_le

def read? (text : String) : Option KeyPath := readSteps? ('.' :: text.toList)

end KeyPath

namespace ConfigValue

def items : ConfigValue → List ConfigValue
  | array items _ => items
  | _ => []

/-- The origin of what is built on a value: its own if it is an array already. -/
def arrayOrigin? : ConfigValue → Option String
  | array _ origin => origin
  | _ => none

/-- Set the value at the end of a path. Values on the way that cannot be stepped into become empty
tables or arrays, and a table at the end is laid over the one that is there. -/
def setAt : KeyPath → ConfigValue → ConfigValue → ConfigValue
  | [], value, _ => value
  | .member key :: rest, value, root =>
    let key := foldKey key
    let old := root.members.lookup key
    let updated := if rest.isEmpty then overlay value old else setAt rest value (old.getD .unit)
    .table (root.members.put key updated) root.tableOrigin?
  | .item index :: rest, value, root =>
    let place := if 0 ≤ index then index.toNat else root.items.length - index.natAbs
    let filled := root.items ++ List.replicate (place + 1 - root.items.length) .unit
    .array (filled.modify place (setAt rest value)) root.arrayOrigin?

end ConfigValue
end Questionnaire
