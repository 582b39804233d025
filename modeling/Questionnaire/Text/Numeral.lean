/-! Decimal numerals with an upper limit. A numeral is read from the left and the first fault
wins: a character that is no ASCII digit, or a value above the limit. -/

namespace Questionnaire.Text

inductive NumeralFault where
  | empty
  | invalidDigit
  | tooLarge
deriving DecidableEq, Repr

def NumeralFault.message : NumeralFault → String
  | .empty => "cannot parse integer from empty string"
  | .invalidDigit => "invalid digit found in string"
  | .tooLarge => "number too large to fit in target type"

def digitValue? (c : Char) : Option Nat :=
  if '0' ≤ c ∧ c ≤ '9' then some (c.toNat - '0'.toNat) else none

/-- Read digits behind a value read so far. -/
def readDigits (limit : Nat) : Nat → List Char → Except NumeralFault Nat
  | value, [] => .ok value
  | value, c :: rest =>
    match digitValue? c with
    | none => .error .invalidDigit
    | some digit =>
      if limit < value * 10 + digit then .error .tooLarge
      else readDigits limit (value * 10 + digit) rest

/-- Read a numeral, which may carry a plus sign. -/
def readNumeral (limit : Nat) (text : List Char) : Except NumeralFault Nat :=
  match text with
  | [] => .error .empty
  | '+' :: [] => .error .invalidDigit
  | '+' :: rest => readDigits limit 0 rest
  | _ => readDigits limit 0 text

def maxWord32 : Nat := 4294967295

def maxWord64 : Nat := 18446744073709551615

def maxInt64 : Nat := 9223372036854775807

def signedWord64? (negative : Bool) (size : Nat) : Option Int :=
  if negative then if size ≤ maxInt64 + 1 then some (-(size : Int)) else none
  else if size ≤ maxInt64 then some size
  else none

end Questionnaire.Text
