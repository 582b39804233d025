import Questionnaire.Command.Arguments
import Questionnaire.Command.Platform
import Questionnaire.Command.Session
import Questionnaire.Document.Compile
import Questionnaire.Format.Registry
import Questionnaire.Settings.Loader
import Questionnaire.Text.Terminal

/-! What the command does: it loads its settings, compiles a document, and prints or writes it. All
that can fail comes before anything is printed or written. -/

namespace Questionnaire.Command

def versionLine : String := "quizform 0.1.0\n"

def formatList (registry : Registry) : String :=
  let line (format : Format) : String :=
    "  " ++ format.name ++ String.ofList (List.replicate (8 - format.name.length) ' ') ++ " " ++
      format.description ++ "\n"
  "Available formats:\n" ++ String.join (registry.formats.map line)

def diagnosticLine (diagnostic : Diagnostic) : String :=
  let level := match diagnostic.severity with
    | .warning => "WARN"
    | .error => "ERROR"
  level ++ " quizform::diagnostics: " ++ Text.forTerminal diagnostic.message ++ " field=" ++
    diagnostic.fieldId

def writtenLine (path format : String) : String :=
  "INFO quizform: wrote document output=" ++ Text.quoted path ++ " format=" ++ format

/-! ## Settings -/

/-- The file that is read wherever the command runs. -/
def localConfigName : String := "quizform.toml"

def configExtension : String := "toml"

def configSource (path : String) (bytes : ByteArray) : ConfigSource :=
  match String.fromUTF8? bytes with
  | some text => .found (Path.plain path) text
  | none => .unreadable FileFault.notText.message

/-- A configuration file of a name, or of that name with an extension behind it. Devices are none.
-/
def readConfig (name : String) (required : Bool) (next : ConfigFile → Session) : Session :=
  if Path.isDevice name then next ⟨name, required, .missing⟩ else
  .read name fun
    | .ok bytes => next ⟨name, required, configSource name bytes⟩
    | .error _ =>
      match Path.addExtension? name configExtension with
      | none => next ⟨name, required, .missing⟩
      | some path =>
        .read path fun
          | .ok bytes => next ⟨name, required, configSource path bytes⟩
          | .error _ => next ⟨name, required, .missing⟩

def withLoaded (platform : Platform) (loader : Loader) (next : Settings → Session) : Session :=
  match loader.load platform.tableOrder with
  | .ok settings => next settings
  | .error fault => .fail ["Failed to load configuration: " ++ fault.message]

/-- Settings from the local file and the one asked for. -/
def withSettings (platform : Platform) (config : Option String) (next : Settings → Session) :
    Session :=
  readConfig localConfigName false fun localFile =>
    let loader := ({} : Loader).addFile localFile
    match config with
    | none => withLoaded platform loader next
    | some name => readConfig name true fun file => withLoaded platform (loader.addFile file) next

/-! ## Documents -/

/-- The compiled document of a file, with the log lines so far. -/
def withDocument (settings : Settings) (input : String) (title : Option String)
    (next : Document → List String → Session) : Session :=
  .readText input fun
    | .error fault => .fail ["Error reading file '" ++ input ++ "': " ++ fault.message]
    | .ok source =>
      let compilation := compile source (settings.documentTitle input title) settings.fieldOptions
        settings.policy
      let log := compilation.diagnostics.map diagnosticLine
      match compilation.result with
      | .ok document => next document log
      | .error failure => .fail (log ++ ["Error: " ++ failure.message])

def withPageOptions (settings : Settings) (next : PageOptions → Session) : Session :=
  match settings.customCss with
  | none => next { form := settings.formOptions }
  | some path =>
    .readText path fun
      | .ok css => next { form := settings.formOptions, customCss := some css }
      | .error fault => .fail ["Error reading CSS file '" ++ path ++ "': " ++ fault.message]

/-- Print a text, or write it to a file. -/
def deliver (output : Option String) (format text : String) (log : List String) : Session :=
  match output with
  | none => .print text log
  | some path =>
    .write path text fun
      | .ok () => .print "" (log ++ [writtenLine path format])
      | .error fault =>
        .fail (log ++ ["Error writing file '" ++ path ++ "': " ++ fault.message])

/-- The format asked for, or the one of the output file, or pages. -/
def formatName (registry : Registry) (format output : Option String) : String :=
  (format <|> output.bind registry.detect?).getD "html"

/-- Write a document in a format, which visits the parameters in the order of the platform. -/
def renderWith (platform : Platform) (registry : Registry) (settings : Settings) (extras : Extras)
    (input : String) (format output title : Option String) : Session :=
  let name := formatName registry format output
  match registry.get name with
  | .error failure => .fail ["Error: " ++ failure.message]
  | .ok _ =>
    withDocument settings input title fun document log =>
      match registry.writeWith document name (platform.parameterOrder.visit extras) with
      | .ok text => deliver output name text log
      | .error failure => .fail (log ++ ["Serialization error: " ++ failure.message])

def render (platform : Platform) (settings : Settings) (extras : Extras) (input : String)
    (format output title : Option String) : Session :=
  withPageOptions settings fun options =>
    renderWith platform (Registry.default.register (.html options)) settings extras input format
      output title

def inspect (settings : Settings) (input : String) (title : Option String) : Session :=
  withDocument settings input title fun document log =>
    .print (document.fieldReport.pretty ++ "\n") log

/-! ## The whole command -/

def act (platform : Platform) (settings : Settings) (extras : Extras) : Option Action → Session
  | some (.render input format output title) =>
    render platform settings extras input format output title
  | some (.inspect input title) => inspect settings input title
  | some .stylesheet => .print Style.sheet []
  | none => .fail ["Unknown subcommand. Use --help for usage information."]

def carryOut (platform : Platform) (invocation : Invocation) (extras : Extras) : Session :=
  if invocation.listFormats then .print (formatList .default) []
  else
    withSettings platform invocation.config fun settings =>
      match settings.applyExtras extras with
      | .error fault => .fail [fault.message]
      | .ok (settings, extras) => act platform settings extras invocation.action

/-- The run of a command line. Help and refusals are about the arguments as they were read last. -/
def session (arguments : List String) (platform : Platform := .standard) : Session :=
  let (others, extras) := splitExtras [] arguments
  match readArguments others with
  | .ok invocation => carryOut platform invocation extras
  | .error .help => .print (platform.helpFor (withPart others)) []
  | .error .version => .print versionLine []
  | .error .usage => .done ⟨.usage, "", platform.refusal (withPart others)⟩

end Questionnaire.Command
