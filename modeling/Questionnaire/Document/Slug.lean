import Questionnaire.Text.LowerCase
import Questionnaire.Text.Word

/-! Slugs: the alphanumeric runs of a title in lower case, joined by dashes. -/

namespace Questionnaire

open Text

/-- The slug of a title without any alphanumeric character. -/
def fallbackSlug : String := "form"

/-- The characters of a slug that continues one already begun. `gap` says whether characters have
been left out since the last one. -/
def slugTail (gap : Bool) : List Char → List Char
  | [] => []
  | c :: rest =>
    if isAlphanumeric c then (if gap then ['-'] else []) ++ lowerChar c ++ slugTail false rest
    else slugTail true rest

/-- The characters of a slug: nothing is left out before its first one. -/
def slugChars : List Char → List Char
  | [] => []
  | c :: rest => if isAlphanumeric c then lowerChar c ++ slugTail false rest else slugChars rest

def slugify (title : String) : String :=
  match slugChars title.toList with
  | [] => fallbackSlug
  | chars => String.ofList chars

end Questionnaire
