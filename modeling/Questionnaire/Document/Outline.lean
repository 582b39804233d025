import Questionnaire.Text.Blank
import Questionnaire.Text.Cut
import Questionnaire.Text.Lines

/-! The outline of a source: its lines are gathered into passages, and the passages into slides. A
heading opens a slide, a blank line ends a paragraph, and nothing inside a fence does either. -/

namespace Questionnaire

open Text

/-- A run of lines that belong together. -/
inductive Passage where
  /-- Lines without a blank one; only these can be a field. -/
  | paragraph (lines : List (List Char))
  | heading (title : List Char) (line : List Char)
  /-- The lines of a fence, its ends included. -/
  | fenced (lines : List (List Char))
deriving DecidableEq, Repr

/-- A slide as it stands in the source. -/
structure RawSlide where
  title : String
  passages : List Passage
deriving DecidableEq, Repr

/-- Whether a line opens or closes a fence: it starts with three backticks or three tildes. -/
def isFence (line : List Char) : Bool :=
  match trimStart line with
  | a :: b :: c :: _ => (a = '\x60' || a = '~') && b = a && c = a
  | _ => false

/-- The title of a heading line: one to six hashes and a space, without the hashes at the end. -/
def headingTitle? (line : List Char) : Option (List Char) :=
  let level := (line.takeWhile (· = '#')).length
  let rest := line.dropWhile (· = '#')
  if level = 0 || 6 < level then none
  else
    match rest with
    | [] => some []
    | c :: _ =>
      if c = ' ' || c = '\t' then some (trim (dropEndWhile (· = '#') (trim rest))) else none

namespace Passage

def isCandidate : Passage → Bool
  | paragraph _ => true
  | heading .. | fenced _ => false

/-- The text of a passage. Empty lines at the end of an open fence are left out. -/
def text : Passage → String
  | paragraph lines => String.ofList (joinLines lines)
  | heading _ line => String.ofList line
  | fenced lines => String.ofList (dropEndWhile (· = '\n') (joinLines lines))

def ofLines : List (List Char) → List Passage
  | [] => []
  | lines => [.paragraph lines]

/-- Gather lines into passages. `held` are the lines of the passage under way, and `fence` says
whether that is a fence. -/
def gather (fence : Bool) (held : List (List Char)) : List (List Char) → List Passage
  | [] => if fence then [.fenced held] else ofLines held
  | line :: rest =>
    if fence then
      if isFence line then .fenced (held ++ [line]) :: gather false [] rest
      else gather true (held ++ [line]) rest
    else if isFence line then ofLines held ++ gather true [line] rest
    else
      match headingTitle? line with
      | some title => ofLines held ++ .heading title line :: gather false [] rest
      | none =>
        if allBlank line then ofLines held ++ gather false [] rest
        else gather false (held ++ [line]) rest

def ofSource (source : String) : List Passage := gather false [] (lines source.toList)

end Passage

/-- Gather passages into slides: those before the first heading, and a slide for each heading. -/
def gatherSlides : List Passage → List Passage × List RawSlide
  | [] => ([], [])
  | passage :: rest =>
    let (lead, slides) := gatherSlides rest
    match passage with
    | .heading title _ => ([], ⟨String.ofList title, passage :: lead⟩ :: slides)
    | _ => (passage :: lead, slides)

/-- The slides of a source. What precedes the first heading is a slide with the title of the
document, which is left out if it is empty and not the only one. -/
def outline (source documentTitle : String) : List RawSlide :=
  let (lead, slides) := gatherSlides (Passage.ofSource source)
  if lead.isEmpty && !slides.isEmpty then slides else ⟨documentTitle, lead⟩ :: slides

end Questionnaire
