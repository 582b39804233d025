/-! Escaping for HTML. Text and attribute values of a tree are escaped character by character;
plain strings that go into a page are escaped by four replacements, the ampersand first, so that
no replacement touches what an earlier one wrote. -/

namespace Questionnaire.Html

def attributeChar (c : Char) : List Char :=
  if c = '&' then "&amp;".toList
  else if c = '\u00A0' then "&nbsp;".toList
  else if c = '"' then "&quot;".toList
  else [c]

def textChar (c : Char) : List Char :=
  if c = '&' then "&amp;".toList
  else if c = '\u00A0' then "&nbsp;".toList
  else if c = '<' then "&lt;".toList
  else if c = '>' then "&gt;".toList
  else [c]

def replaceChar (c : Char) (entity : String) (text : List Char) : List Char :=
  text.flatMap fun d => if d = c then entity.toList else [d]

/-- Replace the four characters that end a text or an attribute value. -/
def escapeChars (text : List Char) : List Char :=
  replaceChar '"' "&quot;" (replaceChar '>' "&gt;" (replaceChar '<' "&lt;"
    (replaceChar '&' "&amp;" text)))

def escape (text : String) : String := String.ofList (escapeChars text.toList)

end Questionnaire.Html
