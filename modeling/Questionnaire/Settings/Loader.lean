import Questionnaire.Settings.Reading
import Questionnaire.Toml.Document

/-! Loading settings from layers: built-in defaults, then files in the order in which they were
added, then single overrides, whenever those were made. -/

namespace Questionnaire

def defaultMembers : ConfigMembers := [
  ("render", .table [
    ("default_textarea_rows", .integer 3 none),
    ("placeholder_label", .string "" none)] none),
  ("form", .table [
    ("method", .string "post" none),
    ("action", .string "" none),
    ("submit_label", .string "" none)] none),
  ("document", .table [("policy", .string "lenient" none)] none),
  ("html", .table [] none)]

inductive ConfigSource where
  | missing
  | unreadable (reason : String)
  /-- A text, and the path at which it was found. -/
  | found (origin text : String)
deriving DecidableEq, Repr

/-- A configuration file, by the name under which it was asked for. -/
structure ConfigFile where
  name : String
  required : Bool
  source : ConfigSource
deriving DecidableEq, Repr

namespace ConfigFile

def members (file : ConfigFile) : Except SettingsFault (List (String × ConfigValue)) :=
  match file.source with
  | .missing => if file.required then .error (.missingFile file.name) else .ok []
  | .unreadable reason => if file.required then .error (.unreadable reason) else .ok []
  | .found origin text =>
    match Toml.read? (some origin) text with
    | some members => .ok members
    | none => .error (.notToml origin)

end ConfigFile

/-- Lay the members of a file over a tree. A key that reads as a path is one. -/
def layMembers (root : ConfigValue) : List (String × ConfigValue) → ConfigValue
  | [] => root
  | (key, value) :: rest =>
    let path := (KeyPath.read? key).getD [.member key]
    layMembers (ConfigValue.setAt path value root) rest

structure Loader where
  files : List ConfigFile := []
  overrides : Entries KeyPath ConfigValue := []

namespace Loader

def addFile (loader : Loader) (file : ConfigFile) : Loader :=
  { loader with files := loader.files ++ [file] }

/-- Add an override of the setting that a text names; an earlier one of the same path goes. -/
def override (loader : Loader) (key : String) (value : ConfigValue) :
    Except SettingsFault Loader :=
  match KeyPath.read? key with
  | none => .error (.badPath key)
  | some path =>
    .ok { loader with
      overrides := loader.overrides.without path ++ [(path, value)] }

/-- Lay files over a tree. The tables of a file keep no order of their own. -/
def layFiles (order : Entries.Order String ConfigValue) (root : ConfigValue) :
    List ConfigFile → Except SettingsFault ConfigValue
  | [] => .ok root
  | file :: rest => do
    let members ← file.members
    layFiles order (layMembers root (ConfigValue.inOrder order members)) rest

def layOverrides (root : ConfigValue) : List (KeyPath × ConfigValue) → ConfigValue
  | [] => root
  | (path, value) :: rest => layOverrides (ConfigValue.setAt path value root) rest

def load (loader : Loader) (order : Entries.Order String ConfigValue := .asGiven) :
    Except SettingsFault Settings := do
  let root ← layFiles order (.table defaultMembers none) loader.files
  Settings.ofMembers (layOverrides root loader.overrides).members

end Loader
end Questionnaire
