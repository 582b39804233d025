import Questionnaire.Toml.Key
import Questionnaire.Toml.Moment
import Questionnaire.Toml.Number
import Questionnaire.Toml.Tree

/-! Reading TOML documents. -/

namespace Questionnaire.Toml

open Text

def isWordChar (c : Char) : Bool := c.isAlphanum || c = '_' || c = '-' || c = '+' || c = '.'

/-- What follows a comment, without the end of its line. -/
def skipComment? (text : List Char) : Option (List Char) :=
  match text with
  | '#' :: rest =>
    let body := rest.takeWhile (· ≠ '\n')
    let after := rest.drop body.length
    let clean := if body.getLast? = some '\r' && !after.isEmpty then body.dropLast else body
    if clean.any isControl then none else some after
  | _ => some text

/-- Remove spaces, line endings and comments between the items of an array. -/
def skipFiller? : (fuel : Nat) → List Char → Option (List Char)
  | 0, _ => none
  | fuel + 1, text =>
    match skipSpace text with
    | '\n' :: rest => skipFiller? fuel rest
    | '\r' :: '\n' :: rest => skipFiller? fuel rest
    | '#' :: rest => (skipComment? ('#' :: rest)).bind (skipFiller? fuel)
    | rest => some rest

/-- A value that holds no others, and the text behind it. -/
def readScalar? (origin : Option String) (text : List Char) :
    Option (ConfigValue × List Char) :=
  let asString := fun ((chars, after) : List Char × List Char) =>
    (ConfigValue.string (String.ofList chars) origin, after)
  if text.head? = some '"' || text.head? = some '\x27' then (readString? text).map asString
  else
    match readMoment? text with
    | some moment => some (asString moment)
    | none =>
      let word := text.takeWhile isWordChar
      let after := text.drop word.length
      if word = "true".toList then some (.boolean true origin, after)
      else if word = "false".toList then some (.boolean false origin, after)
      else (readNumber? origin word).map fun value => (value, after)

mutual
/-- A value, and the text behind it. `depth` bounds how deep it is nested, `fuel` the number of
characters. -/
def readValue? (origin : Option String) (depth fuel : Nat) (text : List Char) :
    Option (ConfigValue × List Char) :=
  match fuel with
  | 0 => none
  | fuel + 1 =>
    match text, depth with
    | '[' :: _, 0 | '{' :: _, 0 => none
    | '[' :: rest, depth + 1 => do
      let (items, after) ← readItems? origin depth fuel (← skipFiller? (rest.length + 1) rest)
      return (.array items origin, after)
    | '{' :: rest, depth + 1 => do
      let (members, after) ←
        match skipSpace rest with
        | '}' :: after => some ([], after)
        | inner => readMembers? origin depth fuel inner []
      return (.table (memberValues origin members) origin, after)
    | text, _ => readScalar? origin text

def readItems? (origin : Option String) (depth fuel : Nat) (text : List Char) :
    Option (List ConfigValue × List Char) :=
  match fuel with
  | 0 => none
  | fuel + 1 =>
    match text with
    | ']' :: after => some ([], after)
    | _ => do
      let (item, rest) ← readValue? origin depth fuel text
      match ← skipFiller? (rest.length + 1) rest with
      | ',' :: more =>
        let (items, after) ← readItems? origin depth fuel (← skipFiller? (more.length + 1) more)
        return (item :: items, after)
      | ']' :: after => return ([item], after)
      | _ => none

/-- The members of an inline table up to its closing brace, added to those before. -/
def readMembers? (origin : Option String) (depth fuel : Nat) (text : List Char)
    (members : Members) : Option (Members × List Char) :=
  match fuel with
  | 0 => none
  | fuel + 1 => do
    let (key, rest) ← readKey? text
    match rest with
    | '=' :: rest =>
      let (value, rest) ← readValue? origin depth fuel (skipSpace rest)
      let members ← members.setDotted key value
      match skipSpace rest with
      | ',' :: more => readMembers? origin depth fuel (skipSpace more) members
      | '}' :: after => return (members, after)
      | _ => none
    | _ => none
end

/-! ## Documents -/

/-- What follows a line on which nothing more may stand but a comment. -/
def endLine? (text : List Char) : Option (List Char) := do
  match ← skipComment? (skipSpace text) with
  | [] => some []
  | '\n' :: rest => some rest
  | '\r' :: '\n' :: rest => some rest
  | _ => none

/-- Change the members that a header is about: `change` takes its last key and the members of the
table around it. -/
def applyHeader (change : String → Members → Option Members) (path : List String)
    (members : Members) : Option Members :=
  path.getLast?.bind fun key => members.within (change key) path.dropLast

/-- Read the lines of a document behind the members read so far; `table` is the path of the table
that is open. -/
def readLines? (origin : Option String) :
    (fuel : Nat) → (table : List String) → Members → List Char → Option Members
  | 0, _, _, _ => none
  | fuel + 1, table, members, text =>
    match skipSpace text with
    | [] => some members
    | '\n' :: rest => readLines? origin fuel table members rest
    | '\r' :: '\n' :: rest => readLines? origin fuel table members rest
    | '#' :: rest => (endLine? ('#' :: rest)).bind (readLines? origin fuel table members)
    | '[' :: '[' :: rest => do
      let (path, rest) ← readKey? rest
      match rest with
      | ']' :: ']' :: rest =>
        let members ← applyHeader (Members.addTable origin) path members
        readLines? origin fuel path members (← endLine? rest)
      | _ => none
    | '[' :: rest => do
      let (path, rest) ← readKey? rest
      match rest with
      | ']' :: rest =>
        let members ← applyHeader Members.openTable path members
        readLines? origin fuel path members (← endLine? rest)
      | _ => none
    | text => do
      let (key, rest) ← readKey? text
      match rest with
      | '=' :: rest =>
        let (value, rest) ← readValue? origin depthLimit (rest.length + 1) (skipSpace rest)
        let members ← members.within (Members.setDotted key value) table
        readLines? origin fuel table members (← endLine? rest)
      | _ => none

def skipByteOrderMark : List Char → List Char
  | '\uFEFF' :: rest => rest
  | text => text

def read? (origin : Option String) (text : String) : Option (List (String × ConfigValue)) :=
  let text := skipByteOrderMark text.toList
  (readLines? origin (text.length + 1) [] [] text).map (memberValues origin)

end Questionnaire.Toml
