import Questionnaire.Markdown.Entity.Names
import Questionnaire.Text.Radix

/-! Character references, such as `&amp;` and `&#65;`. -/

namespace Questionnaire.Markdown

open Text

/-- The character with a code point. The replacement character stands for what is no character, and
for the first one behind the surrogates. -/
def codePoint (n : Nat) : Char :=
  if n = 0 || 0x10FFFF < n || (0xD800 ≤ n && n ≤ 0xE000) then '\uFFFD' else Char.ofNat n

/-- A reference of at most `limit` digits in a base, up to its semicolon, and the text behind it. -/
def readDigits? (base limit : Nat) (digit? : Char → Option Nat) (text : List Char) :
    Option (List Char × List Char) :=
  let digits := text.takeWhile fun c => (digit? c).isSome
  match text.drop digits.length with
  | ';' :: rest =>
    if digits.length ≤ limit then
      (digitsValue? base digit? digits).map fun n => ([codePoint n], rest)
    else none
  | _ => none

/-- What the reference behind an ampersand stands for, and the text behind it. -/
def readEntity? : List Char → Option (List Char × List Char)
  | '#' :: 'x' :: text | '#' :: 'X' :: text => readDigits? 16 6 hexValue? text
  | '#' :: text => readDigits? 10 7 digitValue? text
  | text =>
    let name := text.takeWhile Char.isAlphanum
    match text.drop name.length with
    | ';' :: rest =>
      (characterNames.lookup (String.ofList name)).map fun chars => (chars.toList, rest)
    | _ => none

/-- Put characters in the place of their references. `fuel` bounds the length. -/
def resolveEntities (fuel : Nat) (text : List Char) : List Char :=
  match fuel, text with
  | 0, _ => text
  | _, [] => []
  | fuel + 1, c :: rest =>
    match if c = '&' then readEntity? rest else none with
    | some (chars, after) => chars ++ resolveEntities fuel after
    | none => c :: resolveEntities fuel rest

end Questionnaire.Markdown
