import Questionnaire.Settings.Value

/-! TOML tables under construction. A key must not be given twice, a table must not be opened
twice, and what may be added to a table depends on how it came to be. -/

namespace Questionnaire.Toml

inductive TableKind where
  /-- On the way to a table that was opened. -/
  | implied
  /-- By a line of its own. -/
  | opened
  /-- By a dotted key. -/
  | dotted
deriving DecidableEq

inductive Tree where
  | leaf (value : ConfigValue)
  | node (kind : TableKind) (members : List (String × Tree))
  /-- An array of tables. Only the last one can still grow. -/
  | tables (earlier : List ConfigValue) (last : List (String × Tree))

abbrev Members := Entries String Tree

mutual
def Tree.value (origin : Option String) : Tree → ConfigValue
  | .leaf value => value
  | .node _ members => .table (memberValues origin members) origin
  | .tables earlier last => .array (earlier ++ [.table (memberValues origin last) origin]) origin

def memberValues (origin : Option String) :
    List (String × Tree) → List (String × ConfigValue)
  | [] => []
  | (key, tree) :: rest => (key, tree.value origin) :: memberValues origin rest
end

namespace Members

/-- Change the members of the table at a path. Tables that are not there are implied, and the last
table of an array stands for it. -/
def within (change : Members → Option Members) : (path : List String) → Members → Option Members
  | [], members => change members
  | key :: rest, members =>
    match members.lookup key with
    | none => (within change rest []).map fun inner => members.put key (.node .implied inner)
    | some (.node kind inner) =>
      (within change rest inner).map fun inner => members.put key (.node kind inner)
    | some (.tables earlier last) =>
      (within change rest last).map fun last => members.put key (.tables earlier last)
    | some (.leaf _) => none

/-- Open a table that has at most been implied. -/
def openTable (key : String) (members : Members) : Option Members :=
  match members.lookup key with
  | none => some (members.put key (.node .opened []))
  | some (.node .implied inner) => some (members.put key (.node .opened inner))
  | some _ => none

/-- Add a table to an array of tables, which may be a new one. -/
def addTable (origin : Option String) (key : String) (members : Members) : Option Members :=
  match members.lookup key with
  | none => some (members.put key (.tables [] []))
  | some (.tables earlier last) =>
    some (members.put key (.tables (earlier ++ [.table (memberValues origin last) origin]) []))
  | some _ => none

/-- Set the value of a dotted key. Its tables are those of other dotted keys; only before the last
of them it may pass through tables that were made in another way. -/
def setDotted : (path : List String) → ConfigValue → Members → Option Members
  | [], _, _ => none
  | [key], value, members =>
    if (members.lookup key).isSome then none else some (members.put key (.leaf value))
  | key :: rest, value, members =>
    let passes := 2 ≤ rest.length
    match members.lookup key with
    | none => (setDotted rest value []).map fun inner => members.put key (.node .dotted inner)
    | some (.node .dotted inner) =>
      (setDotted rest value inner).map fun inner => members.put key (.node .dotted inner)
    | some (.node .implied inner) =>
      if passes then
        (setDotted rest value inner).map fun inner => members.put key (.node .implied inner)
      else none
    | some (.tables earlier last) =>
      if passes then
        (setDotted rest value last).map fun last => members.put key (.tables earlier last)
      else none
    | some (.node .opened _) | some (.leaf _) => none

end Members
end Questionnaire.Toml
