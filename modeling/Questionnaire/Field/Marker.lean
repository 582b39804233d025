import Questionnaire.Text.LowerCase

/-! Markers: a short token in brackets in front of a choice, such as `(x)` or `[=]`. Scanning cuts a
text into markers and the texts behind them. -/

namespace Questionnaire

open Text

inductive Bracket where
  /-- Round brackets, for choices of which one can be taken. -/
  | round
  /-- Square brackets, for choices that can be taken together. -/
  | square
deriving DecidableEq, Repr

namespace Bracket

def opening : Bracket → Char
  | round => '('
  | square => '['

def closing : Bracket → Char
  | round => ')'
  | square => ']'

def ofOpening? (c : Char) : Option Bracket :=
  if c = '(' then some round
  else if c = '[' then some square
  else none

end Bracket

structure Flags where
  selected : Bool
  correct : Bool
deriving DecidableEq, Repr

/-- An `x` in any case selects, an equals sign marks a right answer, all else says nothing. -/
def Flags.ofToken (token : List Char) : Flags :=
  let lowered := lowercase token
  ⟨lowered.contains 'x', lowered.contains '='⟩

def isFlagChar (c : Char) : Bool := c = 'x' || c = 'X' || c = '=' || c = ' '

def isBracket (c : Char) : Bool := c = '(' || c = ')' || c = '[' || c = ']'

/-- A token that has been read, with the bracket that closes it and the text behind. -/
structure ReadToken where
  token : List Char
  closing : Char
  after : List Char
deriving DecidableEq, Repr

/-- Read a token up to a closing bracket: at most three flag characters, or any one character that
is no bracket. -/
def readToken? (closes : Char → Bool) (text : List Char) : Option ReadToken :=
  let flags := text.takeWhile isFlagChar
  match text.dropWhile isFlagChar with
  | [] => none
  | c :: rest =>
    if closes c then
      if flags.length ≤ 3 then some ⟨flags, c, rest⟩ else none
    else if flags.isEmpty && !isBracket c then
      match rest with
      | d :: after => if closes d then some ⟨[c], d, after⟩ else none
      | [] => none
    else none

/-- The token of the marker that a text starts with, if it starts with one. -/
def Bracket.leadingToken? (bracket : Bracket) : List Char → Option (List Char)
  | [] => none
  | c :: rest =>
    if c = bracket.opening then (readToken? (· = bracket.closing) rest).map ReadToken.token
    else none

/-- A marker's token and the text up to the next marker. -/
structure MarkedText where
  token : List Char
  text : List Char
deriving DecidableEq, Repr

/-- Cut a text at its markers from left to right, after passing over `skip` characters: the text
before the first marker, then each token with the text behind it. -/
def Bracket.cutMarkers (bracket : Bracket) :
    (skip : Nat) → List Char → List Char × List MarkedText
  | _, [] => ([], [])
  | skip + 1, _ :: rest => bracket.cutMarkers skip rest
  | 0, c :: rest =>
    match bracket.leadingToken? (c :: rest) with
    | some token =>
      let (text, more) := bracket.cutMarkers (token.length + 1) rest
      ([], ⟨token, text⟩ :: more)
    | none =>
      let (text, more) := bracket.cutMarkers 0 rest
      (c :: text, more)

def Bracket.markedTexts (bracket : Bracket) (text : List Char) : List MarkedText :=
  (bracket.cutMarkers 0 text).2

end Questionnaire
