import Questionnaire.Markdown.Blank

/-! A place in a line, in columns. A tab reaches to the next multiple of four columns, and part of
it may belong to one block and the rest to another. -/

namespace Questionnaire.Markdown

structure Cursor where
  /-- The columns before it. -/
  column : Nat
  /-- The text behind it. -/
  rest : List Char
  /-- Whether the text starts with a tab of which the first columns are taken. -/
  inTab : Bool

def toTabStop (column : Nat) : Nat := 4 - column % 4

def indentColumns (column : Nat) : List Char → Nat
  | ' ' :: rest => 1 + indentColumns (column + 1) rest
  | '\t' :: rest => toTabStop column + indentColumns (column + toTabStop column) rest
  | _ => 0

namespace Cursor

def start (line : List Char) : Cursor := ⟨0, line, false⟩

/-- The columns up to the first character that is no space or tab. -/
def indent (cursor : Cursor) : Nat := indentColumns cursor.column cursor.rest

def text (cursor : Cursor) : List Char := skipIndent cursor.rest

def isBlank (cursor : Cursor) : Bool := cursor.text.isEmpty

def isIndented (cursor : Cursor) : Bool := 4 ≤ cursor.indent

def atText (cursor : Cursor) : Cursor := ⟨cursor.column + cursor.indent, cursor.text, false⟩

/-- Go on by some characters, none of them a tab. -/
def skipChars (count : Nat) (cursor : Cursor) : Cursor :=
  ⟨cursor.column + count, cursor.rest.drop count, false⟩

def skipColumns : Nat → Cursor → Cursor
  | 0, cursor => cursor
  | count + 1, ⟨column, rest, inTab⟩ =>
    match rest with
    | [] => ⟨column, [], inTab⟩
    | c :: more =>
      if c = '\t' && 1 < toTabStop column then skipColumns count ⟨column + 1, rest, true⟩
      else skipColumns count ⟨column + 1, more, false⟩

/-- Go on by at most some columns, over spaces and tabs only. -/
def skipIndentColumns (count : Nat) (cursor : Cursor) : Cursor :=
  cursor.skipColumns (min count cursor.indent)

/-- The text of the line from here, where the rest of a tab is written as spaces. -/
def content (cursor : Cursor) : List Char :=
  if cursor.inTab then List.replicate (toTabStop cursor.column) ' ' ++ cursor.rest.drop 1
  else cursor.rest

end Cursor

end Questionnaire.Markdown
