import Questionnaire.Settings.Value
import Questionnaire.Text.Radix

/-! The numbers of TOML. -/

namespace Questionnaire.Toml

open Text

/-- Remove underscores, each of which must stand between digits. -/
def cutUnderscores? (isDigit : Char → Bool) : List Char → Option (List Char)
  | [] => some []
  | [c] => if isDigit c then some [c] else none
  | c :: d :: rest =>
    if !isDigit c then none
    else if d = '_' then
      match rest with
      | e :: _ => if isDigit e then (cutUnderscores? isDigit rest).map (c :: ·) else none
      | [] => none
    else (cutUnderscores? isDigit (d :: rest)).map (c :: ·)

def readDigits? (base : Nat) (digits : List Char) : Option Nat := do
  let isDigit : Char → Bool := fun c => ((hexValue? c).map fun n => decide (n < base)).getD false
  digitsValue? base hexValue? (← cutUnderscores? isDigit digits)

def readDecimal? (digits : List Char) : Option Nat :=
  match digits with
  | '0' :: _ :: _ => none
  | _ => readDigits? 10 digits

def cutSign (text : List Char) : Bool × List Char :=
  match text with
  | '-' :: rest => (true, rest)
  | '+' :: rest => (false, rest)
  | _ => (false, text)

/-- Whole number, fraction and exponent as one decimal. A point needs digits on both sides. -/
def readFloat? (negative : Bool) (text : List Char) : Option Decimal := do
  let isMark := fun c : Char => c = 'e' || c = 'E'
  let body := text.takeWhile (!isMark ·)
  let exponent ←
    match text.dropWhile (!isMark ·) with
    | [] => some (0 : Int)
    | _ :: digits =>
      let (below, digits) := cutSign digits
      (readDigits? 10 digits).map fun n => if below then -(n : Int) else n
  let whole ← readDecimal? (body.takeWhile (· ≠ '.'))
  match body.dropWhile (· ≠ '.') with
  | [] => return ⟨negative, whole, exponent⟩
  | _ :: fraction =>
    let digits ← cutUnderscores? Char.isDigit fraction
    let value ← digitsValue? 10 digitValue? digits
    return ⟨negative, whole * Nat.pow 10 digits.length + value, exponent - digits.length⟩

def readWord? (negative : Bool) (text : List Char) : Option Double :=
  if text = "inf".toList then some (.infinite negative)
  else if text = "nan".toList then some .nan
  else none

/-- The double nearest to a decimal. One that is too large is refused, one too far below zero is
not. -/
def doubleOf? (d : Decimal) : Option Double :=
  match Double.ofDecimal d with
  | .infinite false => none
  | x => some x

/-- A number without quotes. Integers have 64 bits. -/
def readNumber? (origin : Option String) (word : List Char) : Option ConfigValue :=
  let (negative, digits) := cutSign word
  let integer := fun (size : Nat) => (signedWord64? negative size).map (.integer · origin)
  match word with
  | '0' :: 'x' :: rest => (readDigits? 16 rest).bind integer
  | '0' :: 'o' :: rest => (readDigits? 8 rest).bind integer
  | '0' :: 'b' :: rest => (readDigits? 2 rest).bind integer
  | _ =>
    match readWord? negative digits with
    | some x => some (.double x origin)
    | none =>
      if digits.any fun c => c = '.' || c = 'e' || c = 'E' then
        ((readFloat? negative digits).bind doubleOf?).map (.double · origin)
      else (readDecimal? digits).bind integer

end Questionnaire.Toml
