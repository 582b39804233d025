import Questionnaire.Text.Radix

/-! The dates and times of TOML, as text in one form: `T` between date and time, `Z` in upper case,
and at most nine places behind a second, the last of which is no zero. -/

namespace Questionnaire.Toml

open Text

def readField? (width low high : Nat) (text : List Char) : Option (List Char × List Char) := do
  let digits := text.take width
  guard (digits.length = width)
  let n ← digitsValue? 10 digitValue? digits
  guard (low ≤ n && n ≤ high)
  return (digits, text.drop width)

def skipMark? (mark : Char) : List Char → Option (List Char)
  | c :: rest => if c = mark then some rest else none
  | [] => none

def daysOf (year month : Nat) : Nat :=
  if month = 2 then
    if year % 4 = 0 && (year % 100 ≠ 0 || year % 400 = 0) then 29 else 28
  else if [4, 6, 9, 11].contains month then 30
  else 31

def readDate? (text : List Char) : Option (List Char × List Char) := do
  let (year, rest) ← readField? 4 0 9999 text
  let (month, rest) ← readField? 2 1 12 (← skipMark? '-' rest)
  let limit := daysOf ((digitsValue? 10 digitValue? year).getD 0)
    ((digitsValue? 10 digitValue? month).getD 0)
  let (day, rest) ← readField? 2 1 limit (← skipMark? '-' rest)
  return (year ++ '-' :: month ++ '-' :: day, rest)

/-- The places behind a second, with their point, as they are kept. -/
def keptPlaces (places : List Char) : List Char :=
  match ((places.take 9).reverse.dropWhile (· = '0')).reverse with
  | [] => []
  | kept => '.' :: kept

def readTime? (text : List Char) : Option (List Char × List Char) := do
  let (hour, rest) ← readField? 2 0 23 text
  let (minute, rest) ← readField? 2 0 59 (← skipMark? ':' rest)
  let (second, rest) ← readField? 2 0 60 (← skipMark? ':' rest)
  let time := hour ++ ':' :: minute ++ ':' :: second
  match rest with
  | '.' :: more =>
    let places := more.takeWhile Char.isDigit
    if places.isEmpty then return (time, rest)
    else return (time ++ keptPlaces places, more.drop places.length)
  | _ => return (time, rest)

/-- The difference from universal time that may follow a time, and the text behind it. -/
def readOffset (text : List Char) : List Char × List Char :=
  let shift (sign : Char) (rest : List Char) : Option (List Char × List Char) := do
    let (hour, rest) ← readField? 2 0 23 rest
    let (minute, rest) ← readField? 2 0 59 (← skipMark? ':' rest)
    let isZero := (hour ++ minute).all (· = '0')
    return ((if isZero then '+' else sign) :: hour ++ ':' :: minute, rest)
  match text with
  | 'Z' :: rest | 'z' :: rest => (['Z'], rest)
  | '+' :: rest => (shift '+' rest).getD ([], text)
  | '-' :: rest => (shift '-' rest).getD ([], text)
  | _ => ([], text)

/-- A date, a time or both, and the text behind it. What cannot be a time is left behind the
date. -/
def readMoment? (text : List Char) : Option (List Char × List Char) :=
  match readDate? text with
  | none => readTime? text
  | some (date, rest) =>
    let time :=
      match rest with
      | 'T' :: more | 't' :: more | ' ' :: more => readTime? more
      | _ => none
    match time with
    | none => some (date, rest)
    | some (time, rest) =>
      let (offset, rest) := readOffset rest
      some (date ++ 'T' :: time ++ offset, rest)

end Questionnaire.Toml
