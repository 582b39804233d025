import Questionnaire.Json.Basic
import Questionnaire.Proofs.Html.Reader

/-! # Reading JSON

A strict reader for JSON. First the text is cut into tokens, with white space around them, then an
automaton with a stack of open arrays and objects builds the value. Objects keep all their members,
in order. Numbers are natural, so a sign, a fraction or an exponent makes the reader fail, and so
does an escaped surrogate.
-/

namespace Questionnaire.Json

open Text
open Html (readMany readAll?)

/-! ## Strings -/

def escapes : List (Char × Char) :=
  [('"', '"'), ('\\', '\\'), ('/', '/'), ('b', '\u0008'), ('f', '\u000C'), ('n', '\n'), ('r', '\r'),
    ('t', '\t')]

def readCode? (text : List Char) : Option (Char × List Char) := do
  let n ← digitsValue? 16 hexValue? (text.take 4)
  if 4 ≤ text.length ∧ n.isValidChar then return (Char.ofNat n, text.drop 4) else none

def readChar? : List Char → Option (Char × List Char)
  | [] => none
  | '\\' :: 'u' :: rest => readCode? rest
  | '\\' :: letter :: rest => (escapes.lookup letter).map fun meant => (meant, rest)
  | c :: rest => if c = '"' ∨ c = '\\' ∨ c.toNat < 0x20 then none else some (c, rest)

/-! ## Tokens -/

inductive Token where
  | mark (c : Char)
  | string (s : String)
  | scalar (value : Json)

def marks : List Char := ['[', ']', '{', '}', ',', ':']

def readString? (text : List Char) : Option (Token × List Char) :=
  let (chars, text) := readMany readChar? text
  (afterLead ['"'] text).map fun rest => (.string (String.ofList chars), rest)

def words : List (String × Json) := [("null", .null), ("true", .bool true), ("false", .bool false)]

def readWord? (text : List Char) : Option (Token × List Char) :=
  words.findSome? fun (word, value) =>
    (afterLead word.toList text).map fun rest => (.scalar value, rest)

/-- The numeral at the beginning of a text. Only zero itself begins with a zero. -/
def readNumber? (text : List Char) : Option (Token × List Char) :=
  match text.takeWhile Char.isDigit with
  | [] => none
  | '0' :: _ :: _ => none
  | digits => some (.scalar (.number (Nat.ofDigitChars 10 digits 0)), text.dropWhile Char.isDigit)

def scan? : List Char → Option (Token × List Char)
  | [] => none
  | c :: rest =>
    if c ∈ marks then some (.mark c, rest)
    else if c = '"' then readString? rest
    else (readWord? (c :: rest)).or (readNumber? (c :: rest))

def isSpace (c : Char) : Bool := c = ' ' || c = '\n' || c = '\r' || c = '\t'

def skipSpace (text : List Char) : List Char := text.dropWhile isSpace

def tokens? (text : List Char) : Option (List Token) :=
  readAll? (fun text => (scan? text).map fun (token, rest) => (token, skipSpace rest))
    (skipSpace text)

/-! ## Values -/

/-- An array or object that is still open, with what it holds so far, last one first; an object also
with the name of the member under way. -/
inductive Frame where
  | array (before : List Json)
  | object (before : List (String × Json)) (name : String)

/-- Where the reader stands, inside the open arrays and objects from the innermost one outwards. -/
inductive Reader where
  /-- A value has to come. -/
  | valueDue (outer : List Frame)
  /-- Right behind the bracket that opens an array. -/
  | inArray (outer : List Frame)
  /-- Right behind the brace that opens an object. -/
  | inObject (outer : List Frame)
  /-- A name has to come, behind members already read. -/
  | nameDue (before : List (String × Json)) (outer : List Frame)
  /-- The colon behind a name has to come. -/
  | colonDue (before : List (String × Json)) (name : String) (outer : List Frame)
  /-- A value has ended. -/
  | behind (value : Json) (outer : List Frame)

namespace Reader

def start (outer : List Frame) : Token → Option Reader
  | .scalar value => some (.behind value outer)
  | .string s => some (.behind (.string s) outer)
  | .mark '[' => some (.inArray outer)
  | .mark '{' => some (.inObject outer)
  | .mark _ => none

def startMember (before : List (String × Json)) (outer : List Frame) : Token → Option Reader
  | .string name => some (.colonDue before name outer)
  | _ => none

def goOn (value : Json) : List Frame → Token → Option Reader
  | .array before :: outer, .mark ',' => some (.valueDue (.array (value :: before) :: outer))
  | .array before :: outer, .mark ']' => some (.behind (.array (value :: before).reverse) outer)
  | .object before name :: outer, .mark ',' => some (.nameDue ((name, value) :: before) outer)
  | .object before name :: outer, .mark '}' =>
    some (.behind (.object ((name, value) :: before).reverse) outer)
  | _, _ => none

def step : Reader → Token → Option Reader
  | valueDue outer, token => start outer token
  | inArray outer, .mark ']' => some (.behind (.array []) outer)
  | inArray outer, token => start (.array [] :: outer) token
  | inObject outer, .mark '}' => some (.behind (.object []) outer)
  | inObject outer, token => startMember [] outer token
  | nameDue before outer, token => startMember before outer token
  | colonDue before name outer, .mark ':' => some (.valueDue (.object before name :: outer))
  | colonDue .., _ => none
  | behind value outer, token => goOn value outer token

end Reader

/-- The value that a text is the JSON of, with nothing but white space around it. -/
def read? (text : String) : Option Json := do
  let tokens ← tokens? text.toList
  match ← tokens.foldlM Reader.step (.valueDue []) with
  | .behind value [] => some value
  | _ => none

end Questionnaire.Json
