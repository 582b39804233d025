import Questionnaire.Html.Escape

/-! Trees of HTML elements and their one written form. A void element has no content and no closing
tag, and every attribute has a value in double quotes. -/

namespace Questionnaire.Html

structure Attribute where
  name : String
  value : String
deriving DecidableEq, Repr

/-- An element with content, an element that cannot have any, or a text. -/
inductive Node where
  | element (tag : String) (attributes : List Attribute) (children : List Node)
  | void (tag : String) (attributes : List Attribute)
  | text (content : String)

namespace Node

def attributeText (attr : Attribute) : List Char :=
  ' ' :: attr.name.toList ++ '=' :: '"' :: attr.value.toList.flatMap attributeChar ++ ['"']

def openingTag (tag : String) (attributes : List Attribute) : List Char :=
  '<' :: tag.toList ++ attributes.flatMap attributeText ++ ['>']

def closingTag (tag : String) : List Char := '<' :: '/' :: tag.toList ++ ['>']

mutual
def write : Node → List Char
  | element tag attributes children =>
    openingTag tag attributes ++ writeAll children ++ closingTag tag
  | void tag attributes => openingTag tag attributes
  | text content => content.toList.flatMap textChar

def writeAll : List Node → List Char
  | [] => []
  | node :: rest => write node ++ writeAll rest
end

def render (node : Node) : String := String.ofList node.write

end Node
end Questionnaire.Html
