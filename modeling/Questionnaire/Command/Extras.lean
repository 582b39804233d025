import Questionnaire.Settings.Extras
import Questionnaire.Text.Cut

/-! Extra parameters among the arguments of a command line: `--extra-name value`, or the name alone
for `true`. -/

namespace Questionnaire.Command

open Text

def extraName? (argument : String) : Option String :=
  (afterLead "--extra-".toList argument.toList <|> afterLead "--extras-".toList argument.toList).map
    String.ofList

def isDashed (argument : String) : Bool := argument.toList.head? = some '-'

/-- Split the extra parameters off; the last one of a name counts. A parameter takes the next
argument as its value unless that starts with a dash. `extras` are those before. -/
def splitExtras (extras : Extras) : List String → List String × Extras
  | [] => ([], extras)
  | argument :: rest =>
    match extraName? argument, rest with
    | none, rest =>
      let (others, extras) := splitExtras extras rest
      (argument :: others, extras)
    | some name, [] => ([], extras.put name "true")
    | some name, value :: more =>
      if isDashed value then splitExtras (extras.put name "true") (value :: more)
      else splitExtras (extras.put name value) more

end Questionnaire.Command
