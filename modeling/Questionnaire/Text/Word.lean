import Questionnaire.Text.Alphabetic
import Questionnaire.Text.Number
import Questionnaire.Text.Mark

/-! Word characters, of which field codes are made, and alphanumeric ones, of which slugs are. Word
characters go by version 16 of Unicode, alphanumeric ones by version 17. -/

namespace Questionnaire.Text

/-- Connector punctuation (general category Pc), such as the underscore. -/
def isConnector (c : Char) : Bool :=
  CodeRange.covers [⟨0x5F, 0x5F⟩, ⟨0x203F, 0x2040⟩, ⟨0x2054, 0x2054⟩, ⟨0xFE33, 0xFE34⟩,
    ⟨0xFE4D, 0xFE4F⟩, ⟨0xFF3F, 0xFF3F⟩] c.toNat

def isJoiner (c : Char) : Bool := c = '\u200C' || c = '\u200D'

/-- A word character: alphabetic, a mark, a decimal digit, a connector or a joiner. -/
def isWord (c : Char) : Bool :=
  isAlphabetic c || isMark c || isDecimalDigit c || isConnector c || isJoiner c

/-- An alphabetic character or a number of any kind, the most recent ones included. -/
def isAlphanumeric (c : Char) : Bool := isAlphabetic c || isRecentLetter c || isNumber c

end Questionnaire.Text
