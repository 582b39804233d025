import Questionnaire.Markdown.Blank
import Questionnaire.Markdown.Entity
import Questionnaire.Markdown.Escape
import Questionnaire.Text.LowerCase

/-! Where a link of Markdown leads: its destination and title, and the definitions that give them
to a label. -/

namespace Questionnaire.Markdown

open Text

structure Target where
  destination : List Char
  title : List Char

/-- A text with its references and escapes resolved. -/
def clean (text : List Char) : List Char := dropEscapes (resolveEntities text.length text)

/-! ## Destinations -/

/-- A destination up to its closing angle bracket, and what follows. -/
def pointedDestination? : List Char → Option (List Char × List Char)
  | [] => none
  | '\\' :: c :: rest =>
    (pointedDestination? rest).map fun (inner, after) => ('\\' :: c :: inner, after)
  | c :: rest =>
    if c = '>' then some ([], rest)
    else if c = '<' || c = '\n' then none
    else (pointedDestination? rest).map fun (inner, after) => (c :: inner, after)

def bracketLimit : Nat := 32

/-- A character that ends a destination without angle brackets: a space or a control character. -/
def endsDestination (c : Char) : Bool := c.toNat ≤ 0x20 || c.toNat = 0x7F

/-- A destination without angle brackets, its round brackets balanced, and what follows. -/
def bareDestination? : (depth : Nat) → List Char → Option (List Char × List Char)
  | _, [] => none
  | depth, '\\' :: c :: rest =>
    if isAsciiPunctuation c then
      (bareDestination? depth rest).map fun (inner, after) => ('\\' :: c :: inner, after)
    else (bareDestination? depth (c :: rest)).map fun (inner, after) => ('\\' :: inner, after)
  | depth, c :: rest =>
    if endsDestination c then if depth = 0 then some ([], c :: rest) else none
    else if c = ')' && depth = 0 then some ([], c :: rest)
    else if c = '(' && bracketLimit ≤ depth then none
    else
      let depth := if c = '(' then depth + 1 else if c = ')' then depth - 1 else depth
      (bareDestination? depth rest).map fun (inner, after) => (c :: inner, after)

def readDestination? (text : List Char) : Option (List Char × List Char) :=
  match text with
  | [] => none
  | '<' :: rest => pointedDestination? rest
  | c :: _ => if endsDestination c then none else bareDestination? 0 text

/-! ## Titles -/

/-- A title up to its closing mark, and what follows. A closing mark behind a backslash ends it only
if no later one does, and a title in brackets holds no other opening one. -/
def titleBody? (closing : Char) : List Char → Option (List Char × List Char)
  | [] => none
  | '\\' :: c :: rest =>
    if c = closing || (closing = ')' && c = '(') then
      match titleBody? closing rest with
      | some (inner, after) => some ('\\' :: c :: inner, after)
      | none => if c = closing then some (['\\'], rest) else none
    else (titleBody? closing (c :: rest)).map fun (inner, after) => ('\\' :: inner, after)
  | c :: rest =>
    if c = closing then some ([], rest)
    else if closing = ')' && c = '(' then none
    else (titleBody? closing rest).map fun (inner, after) => (c :: inner, after)

def readTitle? : List Char → Option (List Char × List Char)
  | [] => none
  | c :: rest =>
    if c = '"' || c = '\x27' then titleBody? c rest
    else if c = '(' then titleBody? ')' rest
    else none

/-- The target behind the round bracket of a link, and what follows the link. -/
def readTarget? (text : List Char) : Option (Target × List Char) := do
  let (destination, rest) ← readDestination? (text.dropWhile isTagGap)
  let spaced := rest.dropWhile isTagGap
  let (title, behind) :=
    if spaced.length < rest.length then (readTitle? spaced).getD ([], spaced) else ([], spaced)
  match behind.dropWhile isTagGap with
  | ')' :: after => some (⟨clean (trimGaps destination), clean title⟩, after)
  | _ => none

/-! ## Labels and definitions -/

def labelBody? : List Char → Option (List Char × List Char)
  | [] => none
  | '\\' :: c :: rest =>
    if isAsciiPunctuation c then
      (labelBody? rest).map fun (inner, after) => ('\\' :: c :: inner, after)
    else (labelBody? (c :: rest)).map fun (inner, after) => ('\\' :: inner, after)
  | c :: rest =>
    if c = ']' then some ([], rest)
    else if c = '[' then none
    else (labelBody? rest).map fun (inner, after) => (c :: inner, after)

def labelLimit : Nat := 1000

/-- The label that a text starts with, without the blanks at its ends, and what follows it. -/
def readLabel? : List Char → Option (List Char × List Char)
  | '[' :: rest => do
    let (label, after) ← labelBody? rest
    if (String.ofList label).utf8ByteSize ≤ labelLimit then some (trimGaps label, after) else none
  | _ => none

/-- A character of a label, such that labels that differ in case only are equal. -/
def foldChar (c : Char) : List Char :=
  if c = 'ß' || c = 'ẞ' then ['s', 's'] else if c = 'ς' then ['σ'] else lowerChar c

def joinBlanks : List Char → List Char
  | [] => []
  | c :: rest =>
    let more := joinBlanks rest
    if isBlank c then if more.head? = some ' ' then more else ' ' :: more
    else c :: more

/-- The form in which labels are compared. -/
def foldLabel (label : List Char) : List Char := (joinBlanks (trimGaps label)).flatMap foldChar

structure Definition where
  label : List Char
  target : Target

/-- The target of a label. The first definition counts. -/
def findTarget? (definitions : List Definition) (label : List Char) : Option Target :=
  (definitions.find? fun definition => definition.label = foldLabel label).map (·.target)

/-- The text behind the spaces and tabs at its start, and behind one line end among them. -/
def skipToText (text : List Char) : List Char :=
  match skipIndent text with
  | '\n' :: rest => skipIndent rest
  | rest => rest

/-- The text behind the end of the line, if nothing else is left of the line. -/
def afterLine? (text : List Char) : Option (List Char) :=
  match skipIndent text with
  | [] => some []
  | '\n' :: rest => some rest
  | _ => none

/-- The title of a definition, which ends its line, and what follows. -/
def readLastTitle? (text : List Char) : Option (List Char × List Char) := do
  let spaced := skipToText text
  let (title, rest) ← if spaced.length < text.length then readTitle? spaced else none
  let after ← afterLine? rest
  some (title, after)

def readDefinition? (text : List Char) : Option (Definition × List Char) := do
  let (label, rest) ← readLabel? text
  if label.isEmpty then none
  else
    match rest with
    | ':' :: rest =>
      let (destination, rest) ← readDestination? (skipToText rest)
      let (title, after) ← (readLastTitle? rest).or ((afterLine? rest).map fun after => ([], after))
      some (⟨foldLabel label, clean (trimGaps destination), clean title⟩, after)
    | _ => none

/-- The definitions at the start of a text, and what follows them. `fuel` bounds the length. -/
def takeDefinitions : (fuel : Nat) → List Char → List Definition × List Char
  | 0, text => ([], text)
  | fuel + 1, text =>
    match readDefinition? text with
    | some (definition, rest) =>
      let (definitions, after) := takeDefinitions fuel rest
      (definition :: definitions, after)
    | none => ([], text)

end Questionnaire.Markdown
