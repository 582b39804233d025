import Questionnaire.Text.Quoted

/-! JSON values and their indented form: two spaces a level, a member or item a line, and nothing
between the brackets of an empty array or object. -/

namespace Questionnaire

/-- A JSON value. The numbers of a document are sizes, so they are natural. -/
inductive Json where
  | null
  | bool (b : Bool)
  | number (n : Nat)
  | string (s : String)
  | array (items : List Json)
  | object (members : List (String × Json))

namespace Json

def controlDigits (n : Nat) : List Char :=
  (if n < 16 then ['0'] else []) ++ Text.hexDigits n

def stringChar (c : Char) : List Char :=
  if c = '"' then ['\\', '"']
  else if c = '\\' then ['\\', '\\']
  else if c = '\u0008' then ['\\', 'b']
  else if c = '\u000C' then ['\\', 'f']
  else if c = '\n' then ['\\', 'n']
  else if c = '\r' then ['\\', 'r']
  else if c = '\t' then ['\\', 't']
  else if c.toNat < 0x20 then ['\\', 'u', '0', '0'] ++ controlDigits c.toNat
  else [c]

def writeString (s : String) : List Char := '"' :: s.toList.flatMap stringChar ++ ['"']

def newLine (depth : Nat) : List Char := '\n' :: List.replicate (2 * depth) ' '

mutual
def write (depth : Nat) : Json → List Char
  | null => "null".toList
  | bool b => (if b then "true" else "false").toList
  | number n => (toString n).toList
  | string s => writeString s
  | array [] => ['[', ']']
  | array (item :: rest) =>
    '[' :: newLine (depth + 1) ++ write (depth + 1) item ++ writeItems (depth + 1) rest ++
      newLine depth ++ [']']
  | object [] => ['{', '}']
  | object ((name, value) :: rest) =>
    '{' :: newLine (depth + 1) ++ writeString name ++ ':' :: ' ' :: write (depth + 1) value ++
      writeMembers (depth + 1) rest ++ newLine depth ++ ['}']

/-- The items of an array behind the first. -/
def writeItems (depth : Nat) : List Json → List Char
  | [] => []
  | item :: rest => ',' :: newLine depth ++ write depth item ++ writeItems depth rest

/-- The members of an object behind the first. -/
def writeMembers (depth : Nat) : List (String × Json) → List Char
  | [] => []
  | (name, value) :: rest =>
    ',' :: newLine depth ++ writeString name ++ ':' :: ' ' :: write depth value ++
      writeMembers depth rest
end

def pretty (json : Json) : String := String.ofList (json.write 0)

end Json
end Questionnaire
