import Questionnaire.Markdown.Link

/-! Emphasis. A paragraph is first cut into pieces, among them runs of emphasis marks. Then each run
that can close is paired with the nearest one before it that can open. -/

namespace Questionnaire.Markdown

inductive Inline where
  | text (chars : List Char)
  | code (chars : List Char)
  | emphasis (content : List Inline)
  | strong (content : List Inline)
  | link (target : Target) (content : List Inline)
  | image (target : Target) (content : List Inline)
  /-- HTML of the source. -/
  | html (source : List Char)
  | softBreak
  | hardBreak

/-- A run of emphasis marks, with what its neighbours let it do. -/
structure MarkRun where
  mark : Char
  /-- How many marks the source has. -/
  length : Nat
  /-- How many marks are not paired. -/
  count : Nat
  opens : Bool
  closes : Bool

/-- A part of a paragraph before emphasis is paired. -/
inductive Piece where
  | node (inline : Inline)
  | marks (run : MarkRun)

/-- A piece whose marks count as text. -/
def Piece.plain : Piece → List Inline
  | node inline => [inline]
  | marks run => if run.count = 0 then [] else [.text (List.replicate run.count run.mark)]

/-- Whether two runs can be paired. If one of them can do both, their lengths must not add up to a
multiple of three, unless both are one. -/
def MarkRun.pairs (opener closer : MarkRun) : Bool :=
  opener.mark = closer.mark && opener.opens &&
    (!(opener.closes || closer.opens) || (opener.length + closer.length) % 3 ≠ 0 ||
      (opener.length % 3 = 0 && closer.length % 3 = 0))

/-- Look down a stack of pieces, nearest first, for a run that a closing run can be paired with. The
answer holds the pieces above it in source order, the run, and the stack below it. -/
def findOpener (closer : MarkRun) (above : List Piece) :
    List Piece → Option (List Piece × MarkRun × List Piece)
  | [] => none
  | .marks run :: below =>
    if run.pairs closer then some (above, run, below)
    else findOpener closer (.marks run :: above) below
  | .node inline :: below => findOpener closer (.node inline :: above) below

/-- Pair a closing run as often as its marks allow, two by two where both sides have two. What is
left of it stays on the stack. `fuel` bounds the number of its marks. -/
def closeRun (fuel : Nat) (stack : List Piece) (closer : MarkRun) : List Piece :=
  match fuel with
  | 0 => .marks closer :: stack
  | fuel + 1 =>
    if closer.count = 0 then stack
    else
      match findOpener closer [] stack with
      | none => .marks closer :: stack
      | some (inner, opener, below) =>
        let content := inner.flatMap Piece.plain
        let width := if 2 ≤ opener.count && 2 ≤ closer.count then 2 else 1
        let inline := if width = 2 then Inline.strong content else .emphasis content
        let opened :=
          if opener.count = width then below
          else .marks { opener with count := opener.count - width } :: below
        closeRun fuel (.node inline :: opened) { closer with count := closer.count - width }

/-- Pair the runs of some pieces. The stack holds the pieces read so far, the last one first. -/
def pairRuns (stack : List Piece) : List Piece → List Inline
  | [] => stack.reverse.flatMap Piece.plain
  | .node inline :: rest => pairRuns (.node inline :: stack) rest
  | .marks run :: rest =>
    if run.closes then pairRuns (closeRun (run.count + 1) stack run) rest
    else pairRuns (.marks run :: stack) rest

end Questionnaire.Markdown
