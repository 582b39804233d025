import Questionnaire.Markdown.Emphasis
import Questionnaire.Markdown.Tag
import Questionnaire.Text.Cut
import Questionnaire.Text.Punctuation

/-! The content of a paragraph: text, code, emphasis, links, images and HTML. The text is read from
left to right. What stands behind an open square bracket is kept apart until the bracket is closed,
and then becomes a link, an image, or plain text again. -/

namespace Questionnaire.Markdown

open Text

/-! ## Code and automatic links -/

/-- The longest run of backticks that may enclose code. -/
def backtickLimit : Nat := 80

/-- The text up to the next run of exactly `count` backticks, and what follows it. `run` is the
number of backticks directly before. -/
def untilBackticks? (count run : Nat) : List Char → Option (List Char × List Char)
  | [] => if run = count then some ([], []) else none
  | c :: rest =>
    if c = '\x60' then
      (untilBackticks? count (run + 1) rest).map fun (code, after) => (c :: code, after)
    else if run = count then some ([], c :: rest)
    else (untilBackticks? count 0 rest).map fun (code, after) => (c :: code, after)

/-- The content of a code span: line ends are spaces, and one space at either end is padding, unless
there are only spaces. -/
def codeContent (code : List Char) : List Char :=
  let spaced := code.map fun c => if c = '\n' then ' ' else c
  match spaced with
  | ' ' :: rest =>
    if rest.getLast? = some ' ' && rest.any (· ≠ ' ') then rest.dropLast else spaced
  | _ => spaced

def readCode? (count : Nat) (text : List Char) : Option (List Char × List Char) :=
  if backtickLimit < count then none
  else
    (untilBackticks? count 0 text).map fun (code, after) =>
      (codeContent (code.take (code.length - count)), after)

def isAddressChar (c : Char) : Bool := 0x20 < c.toNat && c ≠ '<' && c ≠ '>'

/-- The address with a scheme behind an angle bracket, and what follows its end. -/
def readAddress? (text : List Char) : Option (List Char × List Char) :=
  let scheme := text.takeWhile fun c => c.isAlphanum || c = '+' || c = '.' || c = '-'
  let address := text.takeWhile isAddressChar
  let startsAlpha := (text.head?.map Char.isAlpha).getD false
  if startsAlpha && 2 ≤ scheme.length && scheme.length ≤ 32 &&
      (text.drop scheme.length).head? = some ':' then
    match text.drop address.length with
    | '>' :: after => some (address, after)
    | _ => none
  else none

def isMailNameChar (c : Char) : Bool :=
  c.isAlphanum || ".!#$%&*+/=?^_|~-".toList.contains c ||
    ['\x27', '\x60', '\x7b', '\x7d'].contains c

def isDomainPart (part : List Char) : Bool :=
  part.length ≤ 63 && part.all isNameChar && (part.head?.map Char.isAlphanum).getD false &&
    (part.getLast?.map Char.isAlphanum).getD false

def readMail? (text : List Char) : Option (List Char × List Char) :=
  let name := text.takeWhile isMailNameChar
  match text.drop name.length with
  | '@' :: rest =>
    let domain := rest.takeWhile fun c => isNameChar c || c = '.'
    match rest.drop domain.length with
    | '>' :: after =>
      if !name.isEmpty && (splitAt '.' domain).all isDomainPart then
        some (name ++ '@' :: domain, after)
      else none
    | _ => none
  | _ => none

def automaticLink (scheme address : List Char) : Inline :=
  let shown := resolveEntities address.length address
  .link ⟨scheme ++ shown, []⟩ [.text shown]

def readAngle (text : List Char) : Inline × List Char :=
  match readAddress? text with
  | some (address, after) => (automaticLink [] address, after)
  | none =>
    match readMail? text with
    | some (address, after) => (automaticLink "mailto:".toList address, after)
    | none =>
      match afterHtml? text with
      | some after => (.html ('<' :: text.take (text.length - after.length)), after)
      | none => (.text ['<'], text)

/-! ## Pieces without brackets -/

def markRun (mark : Char) (length : Nat) (before after : Char) : MarkRun :=
  let left := !isBlank after && (!isPunctuation after || isBlank before || isPunctuation before)
  let right := !isBlank before && (!isPunctuation before || isBlank after || isPunctuation after)
  if mark = '_' then
    ⟨mark, length, length, left && (!right || isPunctuation before),
      right && (!left || isPunctuation after)⟩
  else ⟨mark, length, length, left, right⟩

/-- The break that a line end makes: two spaces before it make it a hard one. -/
def lineBreak (blanks : List Char) : Inline :=
  match blanks.reverse with
  | ' ' :: ' ' :: _ => .hardBreak
  | _ => .softBreak

/-- The character before the end part `text` of a source. A line end stands before the first one. -/
def charBefore (source text : List Char) : Char :=
  (source.take (source.length - text.length)).getLast?.getD '\n'

/-- The piece that starts with the character `c`, and what follows it. Blanks before a line end and
at the start of the next line are dropped. -/
def readPiece (source : List Char) (c : Char) (rest : List Char) : Piece × List Char :=
  if c = '\\' then
    match rest with
    | '\n' :: after => (.node .hardBreak, skipIndent after)
    | d :: after =>
      if isAsciiPunctuation d then (.node (.text [d]), after) else (.node (.text [c]), rest)
    | [] => (.node (.text [c]), [])
  else if c = '\n' then (.node .softBreak, skipIndent rest)
  else if isIndent c then
    let blanks := c :: rest.takeWhile isIndent
    match skipIndent rest with
    | '\n' :: after => (.node (lineBreak blanks), skipIndent after)
    | after => (.node (.text blanks), after)
  else if c = '&' then
    match readEntity? rest with
    | some (chars, after) => (.node (.text chars), after)
    | none => (.node (.text [c]), rest)
  else if c = '<' then
    let (inline, after) := readAngle rest
    (.node inline, after)
  else if c = '\x60' then
    let run := c :: rest.takeWhile (· = c)
    let behind := rest.dropWhile (· = c)
    match readCode? run.length behind with
    | some (code, after) => (.node (.code code), after)
    | none => (.node (.text run), behind)
  else if c = '*' || c = '_' then
    let run := c :: rest.takeWhile (· = c)
    let behind := rest.dropWhile (· = c)
    let before := charBefore source (c :: rest)
    (.marks (markRun c run.length before (behind.head?.getD '\n')), behind)
  else (.node (.text [c]), rest)

/-! ## Brackets -/

/-- A square bracket that has been opened. -/
structure Bracket where
  image : Bool
  /-- The source behind it. -/
  source : List Char
  /-- Whether another bracket has been opened behind it. -/
  followed : Bool
  /-- The pieces behind it, the last one first. -/
  pieces : List Piece

def Bracket.plain (bracket : Bracket) : Piece :=
  .node (.text (if bracket.image then ['!', '['] else ['[']))

structure Progress where
  /-- The open brackets, the innermost one first. -/
  brackets : List Bracket
  /-- The pieces before all brackets, the last one first. -/
  pieces : List Piece
  /-- Whether a link has been closed since the last bracket that could start one. -/
  linkClosed : Bool

namespace Progress

/-- Append pieces, given with the last one first. -/
def append (progress : Progress) (pieces : List Piece) : Progress :=
  match progress.brackets with
  | [] => { progress with pieces := pieces ++ progress.pieces }
  | bracket :: outer =>
    { progress with brackets := { bracket with pieces := pieces ++ bracket.pieces } :: outer }

def openBracket (progress : Progress) (image : Bool) (source : List Char) : Progress :=
  let outer := match progress.brackets with
    | [] => []
    | bracket :: outer => { bracket with followed := true } :: outer
  { progress with
    brackets := ⟨image, source, false, []⟩ :: outer
    linkClosed := progress.linkClosed && image }

/-- The pieces read, where open brackets count as text, in source order. -/
def allPieces (progress : Progress) : List Piece :=
  progress.pieces.reverse ++
    progress.brackets.reverse.flatMap fun bracket => bracket.plain :: bracket.pieces.reverse

/-- The target of a bracket that is closed before the text `rest`, and what follows the link. A
bracket without a label behind it is itself the label, unless it holds another bracket. -/
def target? (definitions : List Definition) (bracket : Bracket) (rest : List Char) :
    Option (Target × List Char) :=
  let direct := match rest with
    | '(' :: behind => readTarget? behind
    | _ => none
  match direct with
  | some found => some found
  | none =>
    let inside := bracket.source.take (bracket.source.length - rest.length - 1)
    let labelled := match readLabel? rest with
      | some (label, after) =>
        if label.isEmpty && !bracket.followed then some (inside, after) else some (label, after)
      | none => if bracket.followed then none else some (inside, rest)
    labelled.bind fun (label, after) =>
      (findTarget? definitions label).map fun target => (target, after)

/-- Close the innermost bracket before the text `rest`. After a link no bracket before it becomes
one, until a new bracket is opened. -/
def closeBracket (definitions : List Definition) (progress : Progress) (rest : List Char) :
    Progress × List Char :=
  match progress.brackets with
  | [] => (progress.append [.node (.text [']'])], rest)
  | bracket :: outer =>
    let before := { progress with brackets := outer }
    let found := if progress.linkClosed && !bracket.image then none
      else target? definitions bracket rest
    match found with
    | some (target, after) =>
      let content := pairRuns [] bracket.pieces.reverse
      let inline := if bracket.image then Inline.image target content else .link target content
      ({ before with linkClosed := progress.linkClosed || !bracket.image }.append [.node inline],
        after)
    | none => (before.append (.node (.text [']']) :: bracket.pieces ++ [bracket.plain]), rest)

end Progress

/-! ## Paragraphs -/

/-- Read the end part `text` of a source. `fuel` bounds its length. -/
def readText (definitions : List Definition) (source : List Char) (fuel : Nat) (text : List Char)
    (progress : Progress) : Progress :=
  match fuel, text with
  | 0, _ => progress
  | _, [] => progress
  | fuel + 1, '[' :: rest =>
    readText definitions source fuel rest (progress.openBracket false rest)
  | fuel + 1, '!' :: '[' :: rest =>
    if rest.head? = some '^' then
      readText definitions source fuel ('[' :: rest) (progress.append [.node (.text ['!'])])
    else readText definitions source fuel rest (progress.openBracket true rest)
  | fuel + 1, ']' :: rest =>
    let (progress, after) := progress.closeBracket definitions rest
    readText definitions source fuel after progress
  | fuel + 1, c :: rest =>
    let (piece, after) := readPiece source c rest
    readText definitions source fuel after (progress.append [piece])

def readInlines (definitions : List Definition) (text : List Char) : List Inline :=
  let source := dropEndWhile isGap text
  let progress := readText definitions source source.length source ⟨[], [], true⟩
  pairRuns [] progress.allPieces

end Questionnaire.Markdown
