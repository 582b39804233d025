import Questionnaire.Proofs.Command.Tidy
import Questionnaire.Proofs.Files.Writing

/-! # What a command line that renders does

Such a run either fails, or it delivers the document as text: it prints the text, or it writes the
text to the file asked for. Which of these, and which text, depends on the files of the directory and
on the orders of the platform alone.
-/

namespace Questionnaire

def Directory.text? (directory : Directory) (path : String) : Option String :=
  match directory.read path with
  | .ok bytes => String.fromUTF8? bytes
  | .error _ => none

namespace Command

/-! ## Going on with what is found -/

section

variable {α β : Type} {directory : Directory} {session : Session} {found : Option α}
  {next : α → Session}

/-- A session goes on with what it finds, or fails if it finds nothing. -/
def Leads (directory : Directory) (session : Session) (found : Option α) (next : α → Session) :
    Prop :=
  match found with
  | some value => session.run directory = (next value).run directory
  | none => (session.run directory).1.status = .failure

theorem Leads.bind {more : α → Option β} {last : β → Session} (h : Leads directory session found next)
    (further : ∀ value, Leads directory (next value) (more value) last) :
    Leads directory session (found.bind more) last := by
  cases found with
  | none => exact h
  | some value =>
    have same : session.run directory = (next value).run directory := h
    have rest := further value
    rw [Option.bind_some]
    unfold Leads at rest ⊢
    rw [same]
    exact rest

end

/-! ## Parts of a run -/

section

variable {platform : Platform} {directory : Directory}

theorem leads_readText {path : String} {next : Except FileFault String → Session}
    (fails : ∀ fault, ((next (.error fault)).run directory).1.status = .failure) :
    Leads directory (.readText path next) (directory.text? path) fun text => next (.ok text) := by
  unfold Leads
  rw [Session.readText, Session.run, Directory.text?]
  cases directory.read path with
  | error fault => exact fails fault
  | ok bytes =>
    dsimp only
    cases String.fromUTF8? bytes with
    | some text => rfl
    | none => exact fails .notText

def configIn (directory : Directory) (name : String) (required : Bool) : ConfigFile :=
  if Path.isDevice name then ⟨name, required, .missing⟩
  else
    match directory.read name with
    | .ok bytes => ⟨name, required, configSource name bytes⟩
    | .error _ =>
      match Path.addExtension? name configExtension with
      | none => ⟨name, required, .missing⟩
      | some path =>
        match directory.read path with
        | .ok bytes => ⟨name, required, configSource path bytes⟩
        | .error _ => ⟨name, required, .missing⟩

theorem run_readConfig (name : String) (required : Bool) (next : ConfigFile → Session) :
    (readConfig name required next).run directory =
      (next (configIn directory name required)).run directory := by
  unfold readConfig configIn
  split
  · rfl
  · rw [Session.run]
    cases directory.read name with
    | ok bytes => rfl
    | error fault =>
      dsimp only
      cases Path.addExtension? name configExtension with
      | none => rfl
      | some path =>
        dsimp only
        rw [Session.run]
        cases directory.read path <;> rfl

def loaderIn (directory : Directory) (config : Option String) : Loader :=
  let loader := ({} : Loader).addFile (configIn directory localConfigName false)
  match config with
  | none => loader
  | some name => loader.addFile (configIn directory name true)

theorem run_withSettings (config : Option String) (next : Settings → Session) :
    (withSettings platform config next).run directory =
      (withLoaded platform (loaderIn directory config) next).run directory := by
  unfold withSettings
  rw [run_readConfig]
  cases config with
  | none => rfl
  | some name => exact run_readConfig ..

def settingsIn (platform : Platform) (directory : Directory) (config : Option String) :
    Option Settings :=
  ((loaderIn directory config).load platform.tableOrder).toOption

def pageOptionsIn (directory : Directory) (settings : Settings) : Option PageOptions :=
  match settings.customCss with
  | none => some { form := settings.formOptions }
  | some path =>
    (directory.text? path).map fun css => { form := settings.formOptions, customCss := some css }

theorem leads_withPageOptions (settings : Settings) (next : PageOptions → Session) :
    Leads directory (withPageOptions settings next) (pageOptionsIn directory settings) next := by
  unfold withPageOptions pageOptionsIn
  cases settings.customCss with
  | none => rfl
  | some path =>
    dsimp only
    rw [Option.map_eq_bind]
    exact (leads_readText fun fault => rfl).bind fun css => rfl

end

/-! ## Rendering -/

structure Request where
  extras : Extras
  config : Option String
  input : String
  format : Option String
  output : Option String
  title : Option String

/-- What a command line asks to be rendered, if it asks for that and nothing else. -/
def Request.of? (arguments : List String) : Option Request :=
  let (others, extras) := splitExtras [] arguments
  match readArguments others with
  | .ok ⟨false, config, some (.render input format output title)⟩ =>
    some ⟨extras, config, input, format, output, title⟩
  | _ => none

structure Rendered where
  format : String
  text : String
  log : List String

def Rendered.deliver (rendered : Rendered) (output : Option String) : Session :=
  Command.deliver output rendered.format rendered.text rendered.log

/-- A command line that is read is carried out with its extra parameters. -/
theorem session_of_invocation {arguments others : List String} {extras : Extras}
    {invocation : Invocation} (parted : splitExtras [] arguments = (others, extras))
    (read : readArguments others = .ok invocation) (platform : Platform) :
    session arguments platform = carryOut platform invocation extras := by
  unfold session
  rw [parted]
  simp only [read]

theorem session_of_request {arguments : List String} {request : Request}
    (asked : Request.of? arguments = some request) (platform : Platform) :
    session arguments platform = carryOut platform ⟨false, request.config,
      some (.render request.input request.format request.output request.title)⟩ request.extras := by
  unfold Request.of? at asked
  cases parted : splitExtras [] arguments with
  | mk others extras =>
    rw [parted] at asked
    dsimp only at asked
    split at asked
    · rename_i read
      cases asked
      exact session_of_invocation parted read platform
    · cases asked

end Command
end Questionnaire
