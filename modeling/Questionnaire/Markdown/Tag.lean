import Questionnaire.Markdown.Blank

/-! HTML in Markdown: tags, comments and the other forms. A reader takes the text behind the angle
bracket and answers the text behind what it has read. -/

namespace Questionnaire.Markdown

def isNameChar (c : Char) : Bool := c.isAlphanum || c = '-'

def startsAttribute (c : Char) : Bool := c.isAlpha || c = '_' || c = ':'

def isAttributeChar (c : Char) : Bool := isNameChar c || c = '_' || c = ':' || c = '.'

def isBareValueChar (c : Char) : Bool :=
  !isTagGap c && !(['"', '\x27', '=', '<', '>', '\x60'].contains c)

/-- What follows the value of an attribute, in quotes or without. -/
def afterValue? (text : List Char) : Option (List Char) :=
  match text with
  | [] => none
  | c :: rest =>
    if c = '"' || c = '\x27' then
      match rest.dropWhile (· ≠ c) with
      | _ :: after => some after
      | [] => none
    else if isBareValueChar c then some (rest.dropWhile isBareValueChar)
    else none

/-- What follows the attributes of an opening tag and its end. `fuel` bounds the attributes. -/
def afterAttributes? (fuel : Nat) (text : List Char) : Option (List Char) :=
  match fuel with
  | 0 => none
  | fuel + 1 =>
    let behind := text.dropWhile isTagGap
    match behind with
    | '>' :: rest => some rest
    | '/' :: '>' :: rest => some rest
    | c :: _ =>
      if behind.length < text.length && startsAttribute c then
        let named := behind.dropWhile isAttributeChar
        match named.dropWhile isTagGap with
        | '=' :: value => (afterValue? (value.dropWhile isTagGap)).bind (afterAttributes? fuel)
        | _ => afterAttributes? fuel named
      else none
    | [] => none

def afterOpenTag? : List Char → Option (List Char)
  | c :: rest =>
    if c.isAlpha then afterAttributes? (rest.length + 1) (rest.dropWhile isNameChar) else none
  | [] => none

def afterCloseTag? : List Char → Option (List Char)
  | '/' :: c :: rest =>
    if c.isAlpha then
      match (rest.dropWhile isNameChar).dropWhile isTagGap with
      | '>' :: after => some after
      | _ => none
    else none
  | _ => none

/-- What follows the end of a comment. Two dashes that do not end it take the next character with
them. -/
def afterComment? : List Char → Option (List Char)
  | '-' :: '-' :: '>' :: rest => some rest
  | '-' :: '-' :: _ :: rest => afterComment? rest
  | _ :: rest => afterComment? rest
  | [] => none

/-- What follows the end of a processing instruction. A question mark that does not end it takes the
next character with it. -/
def afterInstruction? : List Char → Option (List Char)
  | '?' :: '>' :: rest => some rest
  | '?' :: _ :: rest => afterInstruction? rest
  | _ :: rest => afterInstruction? rest
  | [] => none

/-- What follows the end of character data. Two brackets that do not end it take the next character
with them. -/
def afterData? : List Char → Option (List Char)
  | ']' :: ']' :: '>' :: rest => some rest
  | ']' :: ']' :: _ :: rest => afterData? rest
  | _ :: rest => afterData? rest
  | [] => none

def afterHtml? (text : List Char) : Option (List Char) :=
  match text with
  | '!' :: '-' :: '-' :: '>' :: rest => some rest
  | '!' :: '-' :: '-' :: '-' :: '>' :: rest => some rest
  | '!' :: '-' :: '-' :: rest => afterComment? rest
  | '!' :: '[' :: 'C' :: 'D' :: 'A' :: 'T' :: 'A' :: '[' :: rest => afterData? rest
  | '!' :: c :: rest =>
    if c.isAlpha then
      match rest.dropWhile (· ≠ '>') with
      | _ :: after => some after
      | [] => none
    else none
  | '?' :: rest => afterInstruction? rest
  | '/' :: _ => afterCloseTag? text
  | _ => afterOpenTag? text

/-! ## Blocks of HTML -/

inductive HtmlEnd where
  /-- The closing tag of an element whose content is no markup. -/
  | rawElement
  /-- A text. -/
  | text (closing : List Char)
  | blankLine
deriving DecidableEq

def holds (part : List Char) : List Char → Bool
  | [] => part.isEmpty
  | c :: rest => part.isPrefixOf (c :: rest) || holds part rest

def rawElements : List String := ["script", "pre", "textarea", "style"]

def HtmlEnd.endsAt (ending : HtmlEnd) (line : List Char) : Bool :=
  match ending with
  | rawElement =>
    let lowered := line.map Char.toLower
    rawElements.any fun name => holds ('<' :: '/' :: name.toList ++ ['>']) lowered
  | text closing => holds closing line
  | blankLine => false

/-- The elements whose tags start a block wherever they begin a line. -/
def blockElements : List String := [
  "address", "article", "aside", "base", "basefont", "blockquote", "body", "caption", "center",
  "col", "colgroup", "dd", "details", "dialog", "dir", "div", "dl", "dt", "fieldset", "figcaption",
  "figure", "footer", "form", "frame", "frameset", "h1", "h2", "h3", "h4", "h5", "h6", "head",
  "header", "hr", "html", "iframe", "legend", "li", "link", "main", "menu", "menuitem", "nav",
  "noframes", "ol", "optgroup", "option", "p", "param", "search", "section", "summary", "table",
  "tbody", "td", "tfoot", "th", "thead", "title", "tr", "track", "ul"]

/-- Whether a text starts with one of some names, with nothing, a blank or a bracket behind it. -/
def startsElement (names : List String) (slash : Bool) (text : List Char) : Bool :=
  let name := text.takeWhile Char.isAlphanum
  names.contains (String.ofList (name.map Char.toLower)) &&
    match text.drop name.length with
    | [] => true
    | '/' :: '>' :: _ => slash
    | c :: _ => isTagGap c || c = '>'

/-- The end of the block of HTML that starts behind an angle bracket at the start of a line, if it
may come in the middle of a paragraph. -/
def htmlBlock? (text : List Char) : Option HtmlEnd :=
  match text with
  | '!' :: '-' :: '-' :: _ => some (.text ['-', '-', '>'])
  | '?' :: _ => some (.text ['?', '>'])
  | '!' :: rest =>
    if (rest.head?.map Char.isAlpha).getD false then some (.text ['>'])
    else if "[CDATA[".toList.isPrefixOf rest then some (.text [']', ']', '>'])
    else none
  | '/' :: rest => if startsElement blockElements true rest then some .blankLine else none
  | _ =>
    if startsElement rawElements false text then some .rawElement
    else if startsElement blockElements true text then some .blankLine
    else none

/-- Whether a tag and nothing else stands behind an angle bracket at the start of a line. -/
def isLoneTag (text : List Char) : Bool :=
  match (afterOpenTag? text).or (afterCloseTag? text) with
  | some rest => rest.all fun c => isIndent c || c = '\x0c'
  | none => false

end Questionnaire.Markdown
