/-! Lines of a text. A line ends at a line feed, and a carriage return directly before that line
feed belongs to the ending. A last line needs no ending, and an ending starts no new line. -/

namespace Questionnaire.Text

def lines : List Char → List (List Char)
  | [] => []
  | '\n' :: rest => [] :: lines rest
  | '\r' :: '\n' :: rest => [] :: lines rest
  | c :: rest =>
    match lines rest with
    | [] => [[c]]
    | line :: more => (c :: line) :: more

def joinLines : List (List Char) → List Char
  | [] => []
  | [line] => line
  | line :: more => line ++ '\n' :: joinLines more

def isOneLine (text : List Char) : Bool := !text.contains '\n'

end Questionnaire.Text
