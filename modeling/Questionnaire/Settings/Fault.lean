import Questionnaire.Number.Shortest
import Questionnaire.Settings.KeyPath
import Questionnaire.Text.Quoted

/-! Why a configuration cannot be used, and the wording of each reason. -/

namespace Questionnaire

inductive SettingsFault where
  /-- The text that names a setting is no path. -/
  | badPath (text : String)
  /-- A file that has to be there is not. -/
  | missingFile (name : String)
  /-- A file that has to be there cannot be read. -/
  | unreadable (reason : String)
  /-- A file is no TOML document. -/
  | notToml (name : String)
  /-- A value cannot be converted to what its setting needs. -/
  | wrongType (found expected : String) (path : KeyPath) (origin : Option String)
  /-- A section or a policy is not what it has to be. -/
  | misfit (reason : String)
deriving DecidableEq, Repr

def KeyPath.text (path : KeyPath) : String :=
  let step : KeyStep → String
    | .member key => "." ++ key
    | .item index => "[" ++ toString index ++ "]"
  let chars := (String.join (path.map step)).toList
  String.ofList (if chars.head? = some '.' then chars.tail else chars)

def SettingsFault.message : SettingsFault → String
  | badPath text => "invalid key " ++ Text.quoted text
  | missingFile name => "configuration file \"" ++ name ++ "\" not found"
  | unreadable reason => reason
  | notToml name => "invalid TOML in " ++ name
  | wrongType found expected path origin =>
    "invalid type: " ++ found ++ ", expected " ++ expected ++ " for key \x60" ++ path.text ++
      "\x60" ++ (origin.map fun name => " in " ++ name).getD ""
  | misfit reason => reason

namespace ConfigValue

/-- What a conversion says it has found. -/
def found : ConfigValue → String
  | unit => "unit value"
  | boolean b _ => "boolean \x60" ++ toString b ++ "\x60"
  | integer n _ => "64-bit integer \x60" ++ toString n ++ "\x60"
  | double x _ => "floating point \x60" ++ x.text ++ "\x60"
  | string s _ => "string " ++ Text.quoted s
  | array .. => "sequence"
  | table .. => "map"

/-- What a section says it has found. -/
def foundAsSection : ConfigValue → String
  | double x _ => "floating point \x60" ++ x.pointedText ++ "\x60"
  | integer n _ => "integer \x60" ++ toString n ++ "\x60"
  | value => value.found

end ConfigValue
end Questionnaire
