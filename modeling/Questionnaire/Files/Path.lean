import Questionnaire.Text.Cut

/-! Paths as text: their components, and the name, stem and extension of the file they lead to. -/

namespace Questionnaire.Path

open Text

/-- The components of a path. Empty ones and single dots lead nowhere and are left out. -/
def components (path : String) : List (List Char) :=
  (splitAt '/' path.toList).filter fun part => !part.isEmpty && part ≠ ['.']

/-- A path of components, which starts at the root if another one does. -/
def ofComponents (like : String) (parts : List (List Char)) : String :=
  String.ofList ((if like.toList.head? = some '/' then ['/'] else []) ++
    List.intercalate ['/'] parts)

def plain (path : String) : String := ofComponents path (components path)

/-- The name of the file. A path that is empty or ends by going up has none. -/
def fileName? (path : String) : Option (List Char) :=
  match (components path).getLast? with
  | none => none
  | some name => if name = ['.', '.'] then none else some name

def isDevice (path : String) : Bool := (components path).head? = some "dev".toList &&
  path.toList.head? = some '/'

/-- The path of the file whose name is longer by an extension, if the path has a file name. -/
def addExtension? (path extension : String) : Option String :=
  (fileName? path).map fun name =>
    ofComponents path ((components path).dropLast ++ [name ++ '.' :: extension.toList])

/-- The text before and after the last dot, if there is one. -/
def cutAtLastDot (name : List Char) : Option (List Char × List Char) :=
  (cutAt '.' name.reverse).map fun (after, before) => (before.reverse, after.reverse)

/-- Stem and extension of a file name. A dot at the start belongs to the stem. -/
def stemAndExtension (name : List Char) : List Char × Option (List Char) :=
  match cutAtLastDot name with
  | none => (name, none)
  | some ([], _) => (name, none)
  | some (stem, extension) => (stem, some extension)

def stem? (path : String) : Option String :=
  (fileName? path).map fun name => String.ofList (stemAndExtension name).1

def extension? (path : String) : Option String :=
  (fileName? path).bind fun name => (stemAndExtension name).2.map String.ofList

end Questionnaire.Path
