import Questionnaire.Text.Radix

/-! Texts for a terminal: characters that could steer it are written as their codes. -/

namespace Questionnaire.Text

/-- The ASCII characters that steer a terminal: bell, backspace, form feed, escape and delete. -/
def steeringCodes : List Nat := [0x07, 0x08, 0x0C, 0x1B, 0x7F]

def terminalChar (c : Char) : List Char :=
  if steeringCodes.contains c.toNat then
    ['\\', 'x'] ++ List.replicate (2 - (hexDigits c.toNat).length) '0' ++ hexDigits c.toNat
  else if 0x80 ≤ c.toNat ∧ c.toNat ≤ 0x9F then hexEscape c
  else [c]

def forTerminal (text : String) : String := String.ofList (text.toList.flatMap terminalChar)

end Questionnaire.Text
