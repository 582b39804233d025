import Questionnaire.Text.Radix

/-! The strings and keys of TOML. -/

namespace Questionnaire.Toml

open Text

def skipSpace (text : List Char) : List Char := text.dropWhile fun c => c = ' ' || c = '\t'

/-- A character that must not stand in a comment or string. -/
def isControl (c : Char) : Bool := (c.toNat < 0x20 && c ≠ '\t') || c.toNat = 0x7F

def readEscape? : List Char → Option (Char × List Char)
  | 'b' :: rest => some ('\u0008', rest)
  | 't' :: rest => some ('\t', rest)
  | 'n' :: rest => some ('\n', rest)
  | 'f' :: rest => some ('\u000C', rest)
  | 'r' :: rest => some ('\r', rest)
  | '"' :: rest => some ('"', rest)
  | '\\' :: rest => some ('\\', rest)
  | 'u' :: rest => readCode 4 rest
  | 'U' :: rest => readCode 8 rest
  | _ => none
where
  readCode (width : Nat) (text : List Char) : Option (Char × List Char) := do
    let digits := text.take width
    guard (digits.length = width)
    let n ← digitsValue? 16 hexValue? digits
    guard (n ≤ 0x10FFFF && !(0xD800 ≤ n && n ≤ 0xDFFF))
    return (Char.ofNat n, text.drop width)

def readBasic? : (fuel : Nat) → List Char → Option (List Char × List Char)
  | 0, _ => none
  | _, [] => none
  | fuel + 1, c :: rest =>
    if c = '"' then some ([], rest)
    else if c = '\\' then do
      let (d, rest) ← readEscape? rest
      let (chars, after) ← readBasic? fuel rest
      return (d :: chars, after)
    else if isControl c then none
    else (readBasic? fuel rest).map fun (chars, after) => (c :: chars, after)

def readLiteral? : List Char → Option (List Char × List Char)
  | [] => none
  | c :: rest =>
    if c = '\x27' then some ([], rest)
    else if isControl c then none
    else (readLiteral? rest).map fun (chars, after) => (c :: chars, after)

/-- Up to two quotes may stand before the three that end a string over several lines. -/
def readClosing? (quote : Char) (text : List Char) : Option (List Char × List Char) :=
  let run := text.takeWhile (· = quote)
  if 3 ≤ run.length && run.length ≤ 5 then
    some (List.replicate (run.length - 3) quote, text.drop run.length)
  else if 5 < run.length then some ([quote, quote], text.drop 5)
  else none

/-- The rest of a string over several lines, and the text behind it. Escapes are known where
`escapes` holds; a backslash at the end of a line joins it with the next text. -/
def readMultiline? (quote : Char) (escapes : Bool) :
    (fuel : Nat) → List Char → Option (List Char × List Char)
  | 0, _ => none
  | _, [] => none
  | fuel + 1, c :: rest =>
    if c = quote then
      match readClosing? quote (c :: rest) with
      | some closing => some closing
      | none =>
        (readMultiline? quote escapes fuel rest).map fun (chars, after) => (c :: chars, after)
    else if c = '\\' && escapes then
      let isSpace := fun d : Char => d = ' ' || d = '\t' || d = '\n' || d = '\r'
      let skipped := rest.takeWhile isSpace
      if skipped.contains '\n' && ['\n', '\r'].contains ((skipSpace rest).head?.getD ' ') then
        readMultiline? quote escapes fuel (rest.drop skipped.length)
      else do
        let (d, rest) ← readEscape? rest
        let (chars, after) ← readMultiline? quote escapes fuel rest
        return (d :: chars, after)
    else if c = '\r' then
      match rest with
      | '\n' :: after =>
        (readMultiline? quote escapes fuel after).map fun (chars, after) => ('\n' :: chars, after)
      | _ => none
    else if isControl c && c ≠ '\n' then none
    else (readMultiline? quote escapes fuel rest).map fun (chars, after) => (c :: chars, after)

/-- Remove a line ending directly behind the opening quotes. -/
def skipFirstNewline : List Char → List Char
  | '\n' :: rest => rest
  | '\r' :: '\n' :: rest => rest
  | text => text

def readString? (text : List Char) : Option (List Char × List Char) :=
  match text with
  | '"' :: '"' :: '"' :: rest => readMultiline? '"' true (rest.length + 1) (skipFirstNewline rest)
  | '\x27' :: '\x27' :: '\x27' :: rest =>
    readMultiline? '\x27' false (rest.length + 1) (skipFirstNewline rest)
  | '"' :: rest => readBasic? (rest.length + 1) rest
  | '\x27' :: rest => readLiteral? rest
  | _ => none

def isBareKeyChar (c : Char) : Bool := c.isAlphanum || c = '_' || c = '-'

/-- A key without dots, and the text behind it. -/
def readSimpleKey? (text : List Char) : Option (String × List Char) :=
  match text with
  | '"' :: rest => (readBasic? (rest.length + 1) rest).map fun (chars, after) =>
      (String.ofList chars, after)
  | '\x27' :: rest => (readLiteral? rest).map fun (chars, after) => (String.ofList chars, after)
  | _ =>
    let bare := text.takeWhile isBareKeyChar
    if bare.isEmpty then none else some (String.ofList bare, text.drop bare.length)

def depthLimit : Nat := 79

/-- A key as its parts between dots, at most as many as `room` says, and the text behind it and the
spaces that follow. -/
def readParts? : (room : Nat) → List Char → Option (List String × List Char)
  | 0, _ => none
  | room + 1, text => do
    let (part, rest) ← readSimpleKey? (skipSpace text)
    match skipSpace rest with
    | '.' :: more =>
      let (parts, after) ← readParts? room more
      return (part :: parts, after)
    | after => return ([part], after)

def readKey? (text : List Char) : Option (List String × List Char) := readParts? depthLimit text

end Questionnaire.Toml
