import Questionnaire.Text.Blank

/-! The blanks of Markdown. They are fewer than those of a text: a no-break space, for one, is a
character like any other. -/

namespace Questionnaire.Markdown

open Text

def isIndent (c : Char) : Bool := c = ' ' || c = '\t'

/-- A blank in running text: a space, a tab or a line end. -/
def isGap (c : Char) : Bool := isIndent c || c = '\n' || c = '\r'

/-- A blank in a tag or a link, where the two other ASCII blanks count too. -/
def isTagGap (c : Char) : Bool := isGap c || c = '\x0b' || c = '\x0c'

def skipIndent (text : List Char) : List Char := text.dropWhile isIndent

def trimGaps (text : List Char) : List Char := dropEndWhile isGap (text.dropWhile isGap)

/-- The lines of a source. A line ends at a line feed, a carriage return, or both in this order. -/
def sourceLines : List Char → List (List Char)
  | [] => []
  | '\r' :: '\n' :: rest => [] :: sourceLines rest
  | c :: rest =>
    if c = '\n' || c = '\r' then [] :: sourceLines rest
    else
      match sourceLines rest with
      | [] => [[c]]
      | line :: more => (c :: line) :: more

end Questionnaire.Markdown
