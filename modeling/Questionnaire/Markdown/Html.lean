import Questionnaire.Html.Escape
import Questionnaire.Markdown.Block

/-! Markdown as HTML. HTML of the source is not let through. -/

namespace Questionnaire.Markdown

open Html Text

/-! ## Links -/

def isAddressSafe (c : Char) : Bool := c.isAlphanum || "-_.+!*(),%#@?=;:/$~".toList.contains c

def byteDigits (byte : UInt8) : List Char :=
  let digit (n : Nat) : Char := if n < 10 then Char.ofNat (48 + n) else Char.ofNat (55 + n)
  [digit (byte.toNat / 16), digit (byte.toNat % 16)]

/-- An address as an attribute value: bytes that may not stand in it are written in percent form. -/
def addressHtml (address : List Char) : List Char :=
  address.flatMap fun c =>
    if isAddressSafe c then [c]
    else if c = '&' then "&amp;".toList
    else if c = '\x27' then "&#x27;".toList
    else (String.ofList [c]).toUTF8.toList.flatMap fun byte => '%' :: byteDigits byte

/-- Whether a text starts with one of some others, letters of either case being equal. -/
def startsWithAny (starts : List String) (text : List Char) : Bool :=
  let lowered := text.map Char.toLower
  starts.any fun start => start.toList.isPrefixOf lowered

/-- Addresses that are not let through: scripts, files and data other than pictures. -/
def isDangerous (address : List Char) : Bool :=
  startsWithAny ["javascript:", "vbscript:", "file:", "data:"] address &&
    !startsWithAny
      ["data:image/png", "data:image/gif", "data:image/jpeg", "data:image/webp"] address

def attributeHtml (name : String) (value : List Char) : List Char :=
  ' ' :: name.toList ++ '=' :: '"' :: value ++ ['"']

def targetHtml (name : String) (target : Target) : List Char :=
  attributeHtml name (if isDangerous target.destination then [] else addressHtml target.destination)

def titleHtml (target : Target) : List Char :=
  if target.title.isEmpty then [] else attributeHtml "title" (escapeChars target.title)

/-! ## Paragraphs -/

mutual
/-- A part of a paragraph without its markup, as for the description of an image. -/
def Inline.bare : Inline → List Char
  | .text chars | .code chars | .html chars => escapeChars chars
  | .emphasis content | .strong content | .link _ content | .image _ content => bareAll content
  | .softBreak | .hardBreak => [' ']

def bareAll : List Inline → List Char
  | [] => []
  | inline :: rest => inline.bare ++ bareAll rest
end

def omittedHtml : List Char := "<!-- raw HTML omitted -->".toList

mutual
def inlineHtml : Inline → List Char
  | .text chars => escapeChars chars
  | .code chars => "<code>".toList ++ escapeChars chars ++ "</code>".toList
  | .emphasis content => "<em>".toList ++ inlinesHtml content ++ "</em>".toList
  | .strong content => "<strong>".toList ++ inlinesHtml content ++ "</strong>".toList
  | .link target content =>
    "<a".toList ++ targetHtml "href" target ++ titleHtml target ++ '>' :: inlinesHtml content ++
      "</a>".toList
  | .image target content =>
    "<img".toList ++ targetHtml "src" target ++ attributeHtml "alt" (bareAll content) ++
      titleHtml target ++ " />".toList
  | .html _ => omittedHtml
  | .softBreak => ['\n']
  | .hardBreak => "<br />\n".toList

def inlinesHtml : List Inline → List Char
  | [] => []
  | inline :: rest => inlineHtml inline ++ inlinesHtml rest
end

/-! ## Blocks -/

/-- The attributes of the code in a code block: the first word of the info text names the language,
and a formula is also marked as one if that word is all there is. -/
def codeAttributes (info : List Char) : List Char :=
  match info.takeWhile fun c => !isGap c with
  | [] => []
  | word =>
    attributeHtml "class" ("language-".toList ++ escapeChars word) ++
      if info = "math".toList then attributeHtml "data-math-style" "display".toList else []

def listTag : Option Nat → List Char
  | none => "<ul>\n".toList
  | some 1 => "<ol>\n".toList
  | some n => "<ol start=\"".toList ++ (toString n).toList ++ "\">\n".toList

def textHtml (definitions : List Definition) (text : List Char) : List Char :=
  inlinesHtml (readInlines definitions text)

mutual
def blockHtml (definitions : List Definition) : Block → List Char
  | .paragraph text => "<p>".toList ++ textHtml definitions text ++ "</p>\n".toList
  | .heading level text =>
    let name := 'h' :: (toString level).toList
    '<' :: name ++ '>' :: textHtml definitions text ++ '<' :: '/' :: name ++ ['>', '\n']
  | .code info content =>
    "<pre><code".toList ++ codeAttributes info ++ '>' :: escapeChars content ++
      "</code></pre>\n".toList
  | .html => omittedHtml ++ ['\n']
  | .quote blocks =>
    "<blockquote>\n".toList ++ blocksHtml definitions blocks ++ "</blockquote>\n".toList
  | .list start tight items =>
    listTag start ++ itemsHtml definitions tight items ++
      (if start.isSome then "</ol>\n" else "</ul>\n").toList
  | .rule => "<hr />\n".toList
  | .definition _ => []

def blocksHtml (definitions : List Definition) : List Block → List Char
  | [] => []
  | block :: rest => blockHtml definitions block ++ blocksHtml definitions rest

def itemsHtml (definitions : List Definition) (tight : Bool) : List (List Block) → List Char
  | [] => []
  | item :: rest =>
    "<li>".toList ++ itemHtml definitions tight false item ++ "</li>\n".toList ++
      itemsHtml definitions tight rest

/-- The HTML of the blocks of an item. `fresh` says whether a line has just begun. -/
def itemHtml (definitions : List Definition) (tight fresh : Bool) : List Block → List Char
  | [] => []
  | block :: rest =>
    match block, tight with
    | .definition _, _ => itemHtml definitions tight fresh rest
    | .paragraph text, true => textHtml definitions text ++ itemHtml definitions tight false rest
    | _, _ =>
      (if fresh then [] else ['\n']) ++ blockHtml definitions block ++
        itemHtml definitions tight true rest
end

mutual
def Block.definitions : Block → List Definition
  | .definition definition => [definition]
  | .quote blocks => blocksDefinitions blocks
  | .list _ _ items => itemsDefinitions items
  | _ => []

def blocksDefinitions : List Block → List Definition
  | [] => []
  | block :: rest => block.definitions ++ blocksDefinitions rest

def itemsDefinitions : List (List Block) → List Definition
  | [] => []
  | item :: rest => blocksDefinitions item ++ itemsDefinitions rest
end

def toHtml (source : String) : String :=
  let blocks := readBlocks source.toList
  String.ofList (blocksHtml (blocksDefinitions blocks) blocks)

end Questionnaire.Markdown
