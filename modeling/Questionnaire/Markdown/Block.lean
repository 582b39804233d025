import Questionnaire.Markdown.Inline
import Questionnaire.Markdown.LineStart

/-! The blocks of a Markdown source: paragraphs, headings, code, quotes, lists and rules. The source
is read line by line. A line is first followed into the blocks that are open, then it may start new
ones, and its text goes to the innermost block. -/

namespace Questionnaire.Markdown

open Text

/-- A block. The text of a paragraph or heading is kept as it stands in the source. -/
inductive Block where
  | paragraph (text : List Char)
  | heading (level : Nat) (text : List Char)
  | code (info : List Char) (content : List Char)
  | html
  | quote (blocks : List Block)
  /-- A list with the number it starts at, if it is numbered. The items of a tight list are drawn
  without paragraphs. -/
  | list (start : Option Nat) (tight : Bool) (items : List (List Block))
  | rule
  | definition (definition : Definition)

inductive OpenKind where
  | document
  | quote
  | list (item : ItemMark)
  /-- An item of a list, with the columns its lines are indented by. -/
  | item (width : Nat)
  | paragraph
  | heading (level : Nat)
  | fenced (fence : Fence)
  | indented
  | html (ending : HtmlEnd)
  | rule

/-- A block that has been closed, or the blocks of an item. -/
structure ClosedBlock where
  blocks : List Block
  /-- Whether a blank line follows it, or the last block in it. -/
  endsBlank : Bool
  /-- Whether a blank line parts two blocks of an item. -/
  parted : Bool

/-- A block that following lines may add to. -/
structure OpenBlock where
  kind : OpenKind
  /-- The text of a block without blocks in it, the last line first. -/
  lines : List (List Char)
  /-- The closed blocks in it, the last one first. -/
  children : List ClosedBlock
  endsBlank : Bool

def OpenKind.opened (kind : OpenKind) : OpenBlock := ⟨kind, [], [], false⟩

def OpenKind.mayHold (outer inner : OpenKind) : Bool :=
  match outer, inner with
  | list _, item _ => true
  | document, item _ | quote, item _ | item _, item _ => false
  | document, _ | quote, _ | item _, _ => true
  | _, _ => false

/-- Whether a block starts no other block in its lines. -/
def OpenKind.isVerbatim : OpenKind → Bool
  | fenced _ | indented | html _ => true
  | _ => false

def OpenKind.isParagraph : OpenKind → Bool
  | paragraph => true
  | _ => false

/-! ## Closing -/

/-- The content of code, without the blank lines at its end. -/
def cutBlankEnd (lines : List (List Char)) : List (List Char) :=
  (lines.reverse.dropWhile fun line => line.all isIndent).reverse

def joinEnded (lines : List (List Char)) : List Char := lines.flatMap (· ++ ['\n'])

/-- The info text of a fence. -/
def cleanInfo (info : List Char) : List Char :=
  dropEscapes (trimGaps (resolveEntities info.length info))

/-- The definitions and the paragraph that a text makes. -/
def paragraphBlocks (text : List Char) : List Block :=
  let (definitions, rest) := takeDefinitions text.length text
  definitions.map Block.definition ++ if rest.all isGap then [] else [.paragraph rest]

namespace OpenBlock

/-- Put closed blocks into a block, the last one first. -/
def add (block : OpenBlock) (closed : List ClosedBlock) : OpenBlock :=
  { block with children := closed ++ block.children }

def addLine (block : OpenBlock) (line : List Char) : OpenBlock :=
  { block with lines := line :: block.lines }

def lastEndsBlank (block : OpenBlock) : Bool := (block.children.head?.map (·.endsBlank)).getD false

/-- Whether a blank line follows a block in a block that is not the last one. -/
def isParted (block : OpenBlock) : Bool := block.children.tail.any (·.endsBlank)

/-- Close a block. A list is tight if no blank line parts its items or two blocks of one item. -/
def close (block : OpenBlock) : ClosedBlock :=
  let text := joinEnded block.lines.reverse
  let inner := block.children.reverse.flatMap (·.blocks)
  match block.kind with
  | .document => ⟨inner, false, false⟩
  | .quote => ⟨[.quote inner], block.endsBlank, false⟩
  | .list item =>
    let tight := !block.isParted && !block.children.any (·.parted)
    ⟨[.list item.number tight (block.children.reverse.map (·.blocks))],
      block.endsBlank || block.lastEndsBlank, false⟩
  | .item _ => ⟨inner, block.endsBlank || block.lastEndsBlank, block.isParted⟩
  | .paragraph => ⟨paragraphBlocks text, block.endsBlank, false⟩
  | .heading level => ⟨[.heading level text], block.endsBlank, false⟩
  | .fenced _ =>
    let content := match block.lines.reverse with
      | [] => Block.code [] []
      | info :: lines => .code (cleanInfo info) (joinEnded lines)
    ⟨[content], block.endsBlank, false⟩
  | .indented =>
    ⟨[.code [] (joinEnded (cutBlankEnd block.lines.reverse))], block.endsBlank, false⟩
  | .html _ => ⟨[.html], block.endsBlank, false⟩
  | .rule => ⟨[.rule], block.endsBlank, false⟩

end OpenBlock

def closeAll : List OpenBlock → List ClosedBlock
  | [] => []
  | block :: inner => [(block.add (closeAll inner)).close]

/-- Put closed blocks into the innermost of some blocks, which is the first one. -/
def addClosed (closed : List ClosedBlock) : List OpenBlock → List OpenBlock
  | [] => []
  | block :: outer => block.add closed :: outer

/-- Open a block in the innermost of some blocks that may hold it, and close those that may not. -/
def openIn (kind : OpenKind) (closed : List ClosedBlock) : List OpenBlock → List OpenBlock
  | [] => []
  | block :: outer =>
    let block := block.add closed
    if block.kind.mayHold kind then kind.opened :: block :: outer
    else openIn kind [block.close] outer

/-! ## Following a line -/

/-- Where a line goes on in an open block, if it does. `filled` says that the block holds another.
-/
def OpenBlock.follow? (block : OpenBlock) (filled : Bool) (cursor : Cursor) : Option Cursor :=
  match block.kind with
  | .document | .list _ | .rule => some cursor
  | .quote =>
    if !cursor.isIndented && cursor.text.head? = some '>' then some (behindQuote cursor) else none
  | .item width =>
    if width ≤ cursor.indent then some (cursor.skipColumns width)
    else if cursor.isBlank && (filled || !block.children.isEmpty) then some cursor.atText
    else none
  | .paragraph => if cursor.isBlank then none else some cursor
  | .heading _ => none
  | .fenced fence =>
    if fence.closesAt cursor then none else some (cursor.skipIndentColumns fence.margin)
  | .indented =>
    if cursor.isIndented then some (cursor.skipColumns 4)
    else if cursor.isBlank then some cursor.atText
    else none
  | .html ending => if ending = .blankLine && cursor.isBlank then none else some cursor

structure Place where
  /-- The blocks that the line belongs to, the innermost one first. -/
  matched : List OpenBlock
  /-- The open blocks in these, the outermost one first. -/
  unmatched : List OpenBlock
  cursor : Cursor

def follow (matched : List OpenBlock) (cursor : Cursor) : List OpenBlock → Place
  | [] => ⟨matched, [], cursor⟩
  | block :: inner =>
    match block.follow? (!inner.isEmpty) cursor with
    | some next => follow (block :: matched) next inner
    | none => ⟨matched, block :: inner, cursor⟩

/-- Whether a line closes a fence, which is the first of the blocks it does not belong to. -/
def Place.closesFence (place : Place) : Bool :=
  match place.unmatched with
  | ⟨.fenced fence, _, _, _⟩ :: _ => fence.closesAt place.cursor
  | _ => false

/-! ## Opening blocks -/

namespace Place

/-- Open a block, and close those that the line does not belong to. -/
def enter (place : Place) (kind : OpenKind) (cursor : Cursor) : Place :=
  ⟨openIn kind (closeAll place.unmatched) place.matched, [], cursor⟩

/-- Open an item, in the list around it if that has the same mark, or else in a new one. -/
def enterItem (place : Place) (item : ItemMark) (width : Nat) (cursor : Cursor) : Place :=
  let inList := match place.matched with
    | ⟨.list other, _, _, _⟩ :: _ => other.mark == item.mark
    | _ => false
  if inList then place.enter (.item width) cursor
  else (place.enter (.list item) cursor).enter (.item width) cursor

/-- Make a heading of the paragraph that a line belongs to. It must be more than definitions. -/
def underline? (place : Place) (level : Nat) (cursor : Cursor) : Option Place :=
  match place.matched with
  | block :: outer =>
    let text := joinEnded block.lines.reverse
    let (definitions, rest) := takeDefinitions text.length text
    if rest.all isGap then none
    else
      let before := definitions.map fun definition => ⟨[.definition definition], false, false⟩
      let heading := { (OpenKind.heading level).opened with lines := [dropEndWhile isGap rest] }
      some ⟨heading :: addClosed before.reverse outer, [], cursor⟩
  | [] => none

def start? (place : Place) (start : LineStart) (cursor : Cursor) : Option Place :=
  match start with
  | .quote => some (place.enter .quote cursor)
  | .heading level => some (place.enter (.heading level) cursor)
  | .fenced fence => some (place.enter (.fenced fence) cursor)
  | .html ending => some (place.enter (.html ending) cursor)
  | .underline level => place.underline? level cursor
  | .rule => some (place.enter .rule cursor)
  | .item mark width => some (place.enterItem mark width cursor)
  | .indented => some (place.enter .indented cursor)

end Place

/-- Whether text goes to a block, so that the line starts no block in it. -/
def OpenKind.takesText : OpenKind → Bool
  | paragraph | heading _ => true
  | kind => kind.isVerbatim

/-- Open the blocks that a line starts, and say whether there are any. `lazy` says that the
innermost open block is a paragraph. `fuel` bounds the characters of the line. -/
def openBlocks (fuel depth : Nat) (lazy : Bool) (place : Place) : Place × Bool :=
  match fuel, place.matched with
  | fuel + 1, block :: _ =>
    if block.kind.isVerbatim then (place, false)
    else
      let started := do
        let (start, cursor) ← readStart? depth block.kind.isParagraph lazy place.cursor
        place.start? start cursor
      match started with
      | none => (place, false)
      | some next =>
        if (next.matched.head?.map (·.kind.takesText)).getD true then (next, true)
        else ((openBlocks fuel (depth + 1) false next).1, true)
  | _, _ => (place, false)

/-! ## Adding text -/

def OpenBlock.endLast (block : OpenBlock) : OpenBlock :=
  match block.children with
  | [] => block
  | last :: earlier => { block with children := { last with endsBlank := true } :: earlier }

/-- Whether a blank line in a block counts as one behind it. `fresh` says that the line opened it.
-/
def OpenBlock.endsWithBlank (block : OpenBlock) (fresh : Bool) : Bool :=
  match block.kind with
  | .quote | .heading _ | .rule | .fenced _ => false
  | .item _ => !fresh
  | _ => true

def Place.noteBlank (place : Place) (filled fresh : Bool) : Place :=
  let blank := place.cursor.isBlank
  let unmatched := match place.unmatched with
    | [] => []
    | block :: inner => { block with endsBlank := block.endsBlank || blank } :: inner
  let matched := match place.matched with
    | [] => []
    | block :: outer =>
      let block := if blank && !filled then block.endLast else block
      { block with endsBlank := blank && block.endsWithBlank fresh } ::
        outer.map fun block => { block with endsBlank := false }
  ⟨matched, unmatched, place.cursor⟩

/-- Put the text of a line into the innermost block that it belongs to. -/
def addText (cursor : Cursor) : List OpenBlock → List OpenBlock
  | [] => []
  | block :: outer =>
    match block.kind with
    | .fenced _ | .indented => block.addLine cursor.content :: outer
    | .html ending =>
      if ending.endsAt cursor.text then addClosed [block.close] outer else block :: outer
    | .paragraph => block.addLine cursor.text :: outer
    | .heading _ =>
      if cursor.isBlank then block :: outer
      else block.addLine (cutClosingHashes cursor.text) :: outer
    | _ =>
      if cursor.isBlank then block :: outer
      else
        match openIn .paragraph [] (block :: outer) with
        | [] => []
        | paragraph :: around => paragraph.addLine cursor.text :: around

/-- Read a line. The open blocks are given with the innermost one first. A line that starts no block
goes on the paragraph that is open, even where marks of the blocks around it are missing. -/
def readLine (open_ : List OpenBlock) (line : List Char) : List OpenBlock :=
  let place := follow [] (Cursor.start line) open_.reverse
  if place.closesFence then addClosed (closeAll place.unmatched) place.matched
  else
    let lazy := (open_.head?.map (·.kind.isParagraph)).getD false
    let (place, fresh) := openBlocks (line.length + 1) 1 lazy place
    let place := place.noteBlank (!place.unmatched.isEmpty) fresh
    match place.unmatched.reverse with
    | paragraph :: around =>
      if lazy && !place.cursor.isBlank then
        paragraph.addLine place.cursor.content :: around ++ place.matched
      else addText place.cursor (addClosed (closeAll place.unmatched) place.matched)
    | [] => addText place.cursor place.matched

/-- The blocks of a source. A byte order mark at its start is dropped. -/
def readBlocks (source : List Char) : List Block :=
  let shown := source.map fun c => if c = '\u0000' then '\uFFFD' else c
  let text := match shown with
    | '\uFEFF' :: rest => rest
    | _ => shown
  let blocks := (sourceLines text).foldl readLine [OpenKind.document.opened]
  (closeAll blocks.reverse).flatMap (·.blocks)

end Questionnaire.Markdown
