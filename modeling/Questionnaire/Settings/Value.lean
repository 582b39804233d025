import Questionnaire.Entries
import Questionnaire.Number.Double
import Questionnaire.Text.LowerCase

/-! Trees of configuration values, and how later values are laid over earlier ones: tables are
merged member by member, all else takes the place of what was there. Keys are the same in any
case. -/

namespace Questionnaire

/-- A configuration value. `origin` is the file that it comes from; tables that were merged have
none. -/
inductive ConfigValue where
  | unit
  | boolean (b : Bool) (origin : Option String)
  | integer (n : Int) (origin : Option String)
  | double (x : Double) (origin : Option String)
  | string (s : String) (origin : Option String)
  | array (items : List ConfigValue) (origin : Option String)
  | table (members : List (String × ConfigValue)) (origin : Option String)

/-- Members of a table, with keys in lower case. -/
abbrev ConfigMembers := Entries String ConfigValue

namespace ConfigValue

def foldKey (key : String) : String := String.ofList (Text.lowercase key.toList)

def members : ConfigValue → ConfigMembers
  | table members _ => members
  | _ => []

def origin? : ConfigValue → Option String
  | unit => none
  | boolean _ origin | integer _ origin | double _ origin | string _ origin => origin
  | array _ origin | table _ origin => origin

def tableOrigin? : ConfigValue → Option String
  | table _ origin => origin
  | _ => none

mutual
/-- Lay a value over an older one. An empty table leaves the older value as it is. -/
def overlay : ConfigValue → Option ConfigValue → ConfigValue
  | table [] _, old => old.getD (table [] none)
  | table (member :: rest) _, old =>
    table (overlayMembers (member :: rest) ((old.map members).getD [])) (old.bind tableOrigin?)
  | value, _ => value

def overlayMembers : List (String × ConfigValue) → ConfigMembers → ConfigMembers
  | [], old => old
  | (key, value) :: rest, old =>
    overlayMembers rest (old.put (foldKey key) (overlay value (old.lookup (foldKey key))))
end

mutual
/-- A value with the members of all its tables in the order in which they are visited. Tables inside
arrays are never merged, so their order does not show. -/
def visited (order : Entries.Order String ConfigValue) : ConfigValue → ConfigValue
  | table members origin => table (order.visit (visitedMembers order members)) origin
  | value => value

def visitedMembers (order : Entries.Order String ConfigValue) :
    List (String × ConfigValue) → List (String × ConfigValue)
  | [] => []
  | (key, value) :: rest => (key, visited order value) :: visitedMembers order rest
end

def inOrder (order : Entries.Order String ConfigValue) (members : List (String × ConfigValue)) :
    List (String × ConfigValue) :=
  order.visit (visitedMembers order members)

end ConfigValue
end Questionnaire
