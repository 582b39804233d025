import Questionnaire.Markdown.Line
import Questionnaire.Markdown.Tag
import Questionnaire.Text.Radix

/-! What a line starts: a quote, a list item, a heading, code, HTML or a rule. A line that is
indented by four columns or more starts nothing but code. -/

namespace Questionnaire.Markdown

open Text

/-! ## Fences, headings and rules -/

structure Fence where
  mark : Char
  length : Nat
  margin : Nat

/-- The fence that a text starts with. Backticks do not open one if others follow in the line. -/
def openFence? (margin : Nat) : List Char → Option Fence
  | [] => none
  | c :: rest =>
    let length := 1 + (rest.takeWhile (· = c)).length
    if length < 3 then none
    else if c = '~' || (c = '\x60' && !(rest.drop (length - 1)).contains c) then
      some ⟨c, length, margin⟩
    else none

/-- Whether a line closes a fence: a run of at least its length, alone. -/
def Fence.closesAt (fence : Fence) (cursor : Cursor) : Bool :=
  let run := cursor.text.takeWhile (· = fence.mark)
  !cursor.isIndented && fence.length ≤ run.length &&
    (cursor.text.drop run.length).all isIndent

/-- The level of the heading that a text starts: one to six hashes before a blank or nothing. -/
def headingLevel? (text : List Char) : Option Nat :=
  let level := (text.takeWhile (· = '#')).length
  if level = 0 || 6 < level then none
  else
    match text.drop level with
    | [] => some level
    | c :: _ => if isIndent c then some level else none

/-- Remove a closing run of hashes, which must follow a blank or be all there is. -/
def cutClosingHashes (text : List Char) : List Char :=
  let trimmed := dropEndWhile isGap text
  let before := dropEndWhile (· = '#') trimmed
  match before.getLast? with
  | none => []
  | some c => if isIndent c then dropEndWhile isGap before else trimmed

/-- Whether a text is a rule: three or more of the same mark, with blanks between them. -/
def isRule (text : List Char) : Bool :=
  let marks := text.filter fun c => !isIndent c
  3 ≤ marks.length && (marks.all (· = '*') || marks.all (· = '-') || marks.all (· = '_'))

def underlineLevel? (text : List Char) : Option Nat :=
  let marks := dropEndWhile isIndent text
  if marks.isEmpty then none
  else if marks.all (· = '=') then some 1
  else if marks.all (· = '-') then some 2
  else none

/-! ## List items -/

/-- The mark of a list item. Items of one list have the same mark. -/
structure ItemMark where
  mark : Char
  number : Option Nat
deriving DecidableEq

def readMark? (text : List Char) : Option (ItemMark × Nat) :=
  match text with
  | [] => none
  | c :: _ =>
    if c = '-' || c = '+' || c = '*' then some (⟨c, none⟩, 1)
    else
      let digits := (text.takeWhile Char.isDigit).take 9
      match text.drop digits.length with
      | d :: _ =>
        if d = '.' || d = ')' then
          (digitsValue? 10 digitValue? digits).map fun n => (⟨d, some n⟩, digits.length + 1)
        else none
      | [] => none

/-- Whether an item may end a paragraph: it has text, and its number is one if it has a number. -/
def interruptsParagraph (item : ItemMark) (behind : List Char) : Bool :=
  !behind.all isIndent && (item.number.isNone || item.number = some 1)

/-- The item that starts at a place, the columns its lines are indented by, and the place of its
content. One to four columns behind the mark belong to it; if there are more, they start code. -/
def readItem? (inParagraph : Bool) (cursor : Cursor) : Option (ItemMark × Nat × Cursor) := do
  let (item, length) ← readMark? cursor.text
  let behind := cursor.atText.skipChars length
  let standsAlone := (behind.rest.head?.map isIndent).getD true
  if !standsAlone || (inParagraph && !interruptsParagraph item behind.rest) then none
  else
    let gap := behind.indent
    let width := cursor.indent + length
    if gap = 0 || 5 ≤ gap || behind.isBlank then
      some (item, width + 1, behind.skipIndentColumns 1)
    else some (item, width + gap, behind.skipColumns gap)

/-! ## All of them -/

inductive LineStart where
  | quote
  | heading (level : Nat)
  | fenced (fence : Fence)
  | html (ending : HtmlEnd)
  /-- The underline of the paragraph above, which makes it a heading. -/
  | underline (level : Nat)
  | rule
  | item (mark : ItemMark) (width : Nat)
  | indented

/-- The end of the block of HTML that a text starts. A tag alone does not end a paragraph. -/
def readHtml? (inParagraph : Bool) : List Char → Option HtmlEnd
  | '<' :: rest =>
    match htmlBlock? rest with
    | some ending => some ending
    | none => if !inParagraph && isLoneTag rest then some .blankLine else none
  | _ => none

/-- Behind the mark of a quote; one column of blank belongs to it. -/
def behindQuote (cursor : Cursor) : Cursor := (cursor.atText.skipChars 1).skipIndentColumns 1

/-- The levels of quotes and items that one line may open before it opens no more items. -/
def depthLimit : Nat := 100

/-- What starts at a place, and the place of its content. `depth` counts the blocks that the line
has opened, `inParagraph` says that the block around the place is a paragraph, and `lazy` that the
line may go on a paragraph, so that it starts no code. -/
def readStart? (depth : Nat) (inParagraph lazy : Bool) (cursor : Cursor) :
    Option (LineStart × Cursor) :=
  let text := cursor.text
  if cursor.isIndented then
    if lazy || cursor.isBlank then none else some (.indented, cursor.skipColumns 4)
  else if text.head? = some '>' then some (.quote, behindQuote cursor)
  else
    match headingLevel? text, openFence? (cursor.rest.length - text.length) text,
      readHtml? inParagraph text with
    | some level, _, _ => some (.heading level, cursor.atText.skipChars level)
    | none, some fence, _ => some (.fenced fence, cursor.atText.skipChars fence.length)
    | none, none, some ending => some (.html ending, cursor)
    | none, none, none =>
      match if inParagraph then underlineLevel? text else none with
      | some level => some (.underline level, ⟨cursor.column, [], false⟩)
      | none =>
        if isRule text then some (.rule, ⟨cursor.column, [], false⟩)
        else if depth < depthLimit then
          (readItem? inParagraph cursor).map fun (item, width, behind) => (.item item width, behind)
        else none

end Questionnaire.Markdown
