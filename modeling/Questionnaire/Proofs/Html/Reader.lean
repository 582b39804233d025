import Questionnaire.Html.Node
import Questionnaire.Text.Cut

/-! # Reading HTML

A strict reader for the HTML of element trees: tags with double-quoted attributes, void elements
without a closing tag, five character references. First the text is cut into tokens, then an
automaton with a stack of open elements builds the nodes. What this reader does not know (a stray
ampersand, an attribute given twice, a closing tag out of turn) makes it fail.
-/

namespace Questionnaire.Html

open Text

/-! ## Characters -/

def references : List (String × Char) :=
  [("&amp;", '&'), ("&lt;", '<'), ("&gt;", '>'), ("&quot;", '"'), ("&nbsp;", '\u00A0')]

/-- The character that a text begins with. An ampersand has to begin a reference. -/
def readChar? : List Char → Option (Char × List Char)
  | [] => none
  | c :: rest =>
    if c = '&' then
      references.findSome? fun (name, meant) =>
        (afterLead name.toList (c :: rest)).map fun rest => (meant, rest)
    else some (c, rest)

/-! ## Pieces -/

/-- Reads one piece behind the other, as long as `step` finds one that is not empty. -/
def readMany {α : Type} (step : List Char → Option (α × List Char)) (text : List Char) :
    List α × List Char :=
  match step text with
  | none => ([], text)
  | some (piece, rest) =>
    if rest.length < text.length then
      let (pieces, rest) := readMany step rest
      (piece :: pieces, rest)
    else ([], text)
termination_by text.length

def readAll? {α : Type} (step : List Char → Option (α × List Char)) (text : List Char) :
    Option (List α) :=
  match readMany step text with
  | (pieces, []) => some pieces
  | (_, _ :: _) => none

/-! ## Tags -/

def isNameChar (c : Char) : Bool := c.isAlphanum || c = '-'

def readName? (text : List Char) : Option (String × List Char) :=
  match text.takeWhile isNameChar with
  | [] => none
  | name => some (String.ofList name, text.dropWhile isNameChar)

def readAttribute? (text : List Char) : Option (Attribute × List Char) := do
  let text ← afterLead [' '] text
  let (name, text) ← readName? text
  let text ← afterLead ['=', '"'] text
  let (written, text) ← cutAt '"' text
  let value ← readAll? readChar? written
  return (⟨name, String.ofList value⟩, text)

inductive Token where
  | opening (tag : String) (attributes : List Attribute)
  | closing (tag : String)
  | char (c : Char)

/-- An opening tag behind its angle bracket. A name may be given to one attribute only. -/
def readOpening? (text : List Char) : Option (Token × List Char) := do
  let (tag, text) ← readName? text
  let (attributes, text) := readMany readAttribute? text
  let text ← afterLead ['>'] text
  if (attributes.map Attribute.name).Nodup then return (.opening tag attributes, text) else none

def readClosing? (text : List Char) : Option (Token × List Char) := do
  let (tag, text) ← readName? text
  let text ← afterLead ['>'] text
  return (.closing tag, text)

/-- The token that a text begins with. An angle bracket has to begin a tag. -/
def readToken? : List Char → Option (Token × List Char)
  | '<' :: '/' :: text => readClosing? text
  | '<' :: text => readOpening? text
  | text => (readChar? text).map fun (c, rest) => (.char c, rest)

/-! ## Trees -/

def voidTags : List String :=
  ["area", "base", "br", "col", "embed", "hr", "img", "input", "link", "meta", "source", "track",
    "wbr"]

/-- An element whose closing tag is still to come, with the nodes before it, last one first. -/
structure OpenElement where
  tag : String
  attributes : List Attribute
  before : List Node

/-- The nodes read since the innermost opening tag, last one first, and the open elements, from the
innermost one outwards. -/
structure Builder where
  nodes : List Node
  outer : List OpenElement

namespace Builder

def push (builder : Builder) (node : Node) : Builder :=
  { builder with nodes := node :: builder.nodes }

/-- A character goes on the text read last, or begins a new one. -/
def pushChar (builder : Builder) (c : Char) : Builder :=
  match builder.nodes with
  | .text content :: before => { builder with nodes := .text (content.push c) :: before }
  | _ => builder.push (.text (String.singleton c))

def enter (builder : Builder) (tag : String) (attributes : List Attribute) : Builder :=
  ⟨[], ⟨tag, attributes, builder.nodes⟩ :: builder.outer⟩

def step (builder : Builder) : Token → Option Builder
  | .char c => some (builder.pushChar c)
  | .opening tag attributes =>
    if tag ∈ voidTags then some (builder.push (.void tag attributes))
    else some (builder.enter tag attributes)
  | .closing tag =>
    match builder.outer with
    | [] => none
    | element :: outer =>
      if element.tag = tag then
        some ⟨.element tag element.attributes builder.nodes.reverse :: element.before, outer⟩
      else none

end Builder

/-- The tree that a text is the HTML of: one node, with nothing before and behind it. -/
def read? (text : String) : Option Node := do
  let tokens ← readAll? readToken? text.toList
  match ← tokens.foldlM Builder.step ⟨[], []⟩ with
  | ⟨[node], []⟩ => some node
  | _ => none

end Questionnaire.Html
