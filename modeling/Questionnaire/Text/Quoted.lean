import Questionnaire.Text.Hidden
import Questionnaire.Text.Radix

/-! Texts quoted for a message: in double quotes, with a backslash before what would end or
disturb the quotation, and hidden characters written as their code points. -/

namespace Questionnaire.Text

def quotedChar (c : Char) : List Char :=
  if c = '"' then ['\\', '"']
  else if c = '\\' then ['\\', '\\']
  else if c = '\n' then ['\\', 'n']
  else if c = '\r' then ['\\', 'r']
  else if c = '\t' then ['\\', 't']
  else if c.toNat = 0 then ['\\', '0']
  else if isHidden c then hexEscape c
  else [c]

def quoted (text : String) : String :=
  String.ofList ('"' :: text.toList.flatMap quotedChar ++ ['"'])

end Questionnaire.Text
