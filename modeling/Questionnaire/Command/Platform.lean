import Questionnaire.Format.Basic
import Questionnaire.Settings.Value

/-! What a run leaves to the platform it runs on: the words of the reader of arguments, and the orders
in which maps are visited that keep none. A run is a function of its platform, so what is proved for
every platform holds whatever these are. -/

namespace Questionnaire.Command

def helpText : String :=
  "Compile question specifications into HTML forms\n\n" ++
  "Usage: quizform [OPTIONS] [COMMAND]\n\n" ++
  "Commands:\n" ++
  "  render        Compile a document into a form (default command)\n" ++
  "  inspect       Print the parsed fields of a document as JSON\n" ++
  "  generate-css  Output the default CSS used for HTML pages\n" ++
  "  help          Print this message or the help of the given subcommand(s)\n\n" ++
  "Options:\n" ++
  "      --list-formats   List available output formats\n" ++
  "      --config <PATH>  Path to a quizform.toml configuration file\n" ++
  "  -h, --help           Print help\n" ++
  "  -V, --version        Print version\n"

structure Platform where
  /-- What is printed where these arguments ask for help, of the command or of one of its parts. -/
  helpFor : List String → String
  /-- What is logged where these arguments cannot be understood. -/
  refusal : List String → List String
  parameterOrder : Entries.Order String String
  tableOrder : Entries.Order String ConfigValue

/-- The platform of the program itself. The long help, the help of parts and the reasons for which
arguments are refused are left out: one text stands for all of them. -/
def Platform.standard : Platform where
  helpFor _ := helpText
  refusal _ := ["error: invalid arguments; try '--help'"]
  parameterOrder := .asGiven
  tableOrder := .asGiven

end Questionnaire.Command
