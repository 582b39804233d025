import Questionnaire.Entries
import Questionnaire.Settings.Basic
import Questionnaire.Text.Numeral

/-! Extra parameters of a command line. Known ones change the settings; the others are left for the
output format. -/

namespace Questionnaire

open Text

abbrev Extras := Entries String String

namespace Extras

def take (extras : Extras) (name : String) : Option String × Extras :=
  (extras.lookup name, extras.without name)

/-- Take the first parameter of some names out, and leave the others. -/
def takeFirst (extras : Extras) : List String → Option String × Extras
  | [] => (none, extras)
  | name :: rest =>
    match extras.take name with
    | (some value, left) => (some value, left)
    | (none, _) => takeFirst extras rest

end Extras

inductive ExtraFault where
  | rows (text : String)
  | policy (lowered : String)
  | truth (flag lowered : String)
deriving DecidableEq, Repr

def ExtraFault.message : ExtraFault → String
  | rows text => "Invalid row count '" ++ text ++ "' for --extra-textarea-rows"
  | policy lowered => "Invalid policy '" ++ lowered ++ "' for --extra-policy (strict, lenient)"
  | truth flag lowered => "Invalid boolean value '" ++ lowered ++ "' for --extra-" ++ flag

def lowered (text : String) : String := String.ofList (lowercase text.toList)

def readTruth (flag text : String) : Except ExtraFault Bool :=
  let word := lowered text
  if ["true", "1", "yes", "y"].contains word then .ok true
  else if ["false", "0", "no", "n"].contains word then .ok false
  else .error (.truth flag word)

namespace Settings

def readRows (text : String) : Except ExtraFault Nat :=
  match readNumeral maxWord32 text.toList with
  | .ok rows => .ok rows
  | .error _ => .error (.rows text)

def readPolicy (text : String) : Except ExtraFault Policy :=
  match Policy.ofName? text with
  | some policy => .ok policy
  | none => .error (.policy (lowered text))

/-- Apply the known parameters, and give the settings with the parameters left. Where a setting has
two names the first one counts and the other is left. -/
def applyExtras (settings : Settings) (extras : Extras) :
    Except ExtraFault (Settings × Extras) := do
  let (rowsText, extras) := extras.takeFirst ["textarea-rows", "rows"]
  let rows ←
    match rowsText with
    | some text => readRows text
    | none => .ok settings.rows
  let (placeholder, extras) := extras.takeFirst ["placeholder"]
  let (policyText, extras) := extras.takeFirst ["policy"]
  let policy ←
    match policyText with
    | some text => readPolicy text
    | none => .ok settings.policy
  let (strictText, extras) := extras.takeFirst ["strict"]
  let strict ←
    match strictText with
    | some text => readTruth "strict" text
    | none => .ok false
  let (method, extras) := extras.takeFirst ["method"]
  let (action, extras) := extras.takeFirst ["action"]
  let (submitLabel, extras) := extras.takeFirst ["submit-label", "submit"]
  let (customCss, extras) := extras.takeFirst ["css", "css-path"]
  return ({
    rows
    placeholder := placeholder.getD settings.placeholder
    method := method.getD settings.method
    action := action.getD settings.action
    submitLabel := submitLabel.getD settings.submitLabel
    policy := if strict then .strict else policy
    title := settings.title
    customCss := customCss <|> settings.customCss }, extras)

end Settings
end Questionnaire
