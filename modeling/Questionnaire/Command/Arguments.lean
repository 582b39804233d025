import Questionnaire.Command.Extras

/-! The arguments of the command line. A command is read by its shape: options with or without a
value, a number of plain arguments, and the names of the commands it has. -/

namespace Questionnaire.Command

open Text

/-- An option, by its long name and perhaps one letter. -/
structure OptionShape where
  name : String
  letter : Option Char := none
  takesValue : Bool := true
deriving DecidableEq, Repr

structure Shape where
  options : List OptionShape
  /-- How many plain arguments it takes; it needs them all. -/
  plain : Nat
  commands : List String := []
  hasVersion : Bool := false
deriving DecidableEq, Repr

structure Matches where
  flags : List String := []
  values : Entries String String := []
  plain : List String := []
  /-- The command named, with the arguments behind it. -/
  command : Option (String × List String) := none
deriving DecidableEq, Repr

/-- Why arguments do not lead to an action. -/
inductive Halt where
  | usage
  | help
  | version
deriving DecidableEq, Repr

namespace Matches

/-- Note a flag, which must not be given twice. -/
def addFlag (found : Matches) (name : String) : Except Halt Matches :=
  if found.flags.contains name then .error .usage
  else .ok { found with flags := name :: found.flags }

def addValue (found : Matches) (name value : String) : Except Halt Matches :=
  if (found.values.lookup name).isSome then .error .usage
  else .ok { found with values := (name, value) :: found.values }

def addPlain (shape : Shape) (found : Matches) (argument : String) : Except Halt Matches :=
  if found.plain.length < shape.plain then .ok { found with plain := found.plain ++ [argument] }
  else .error .usage

end Matches

inductive ArgumentKind where
  /-- Two dashes: only plain arguments follow. -/
  | separator
  /-- An option, perhaps with a value attached. -/
  | option (shape : OptionShape) (attached : Option String)
  | halt (halt : Halt)
  | command (name : String)
  | plain
deriving DecidableEq, Repr

namespace ArgumentKind

/-- The text behind a name and an equals sign, and the name. -/
def cutValue (text : List Char) : String × Option String :=
  match cutAt '=' text with
  | some (name, value) => (String.ofList name, some (String.ofList value))
  | none => (String.ofList text, none)

def ofLong (shape : Shape) (text : List Char) : ArgumentKind :=
  let (name, attached) := cutValue text
  match shape.options.find? fun entry => entry.name = name with
  | some entry => .option entry attached
  | none =>
    if name = "help" && attached.isNone then .halt .help
    else if name = "version" && attached.isNone && shape.hasVersion then .halt .version
    else .halt .usage

/-- An argument that starts with one dash and a letter. The rest is a value, perhaps behind an
equals sign. -/
def ofShort (shape : Shape) (letter : Char) (rest : List Char) : ArgumentKind :=
  match shape.options.find? fun entry => entry.letter = some letter with
  | some entry =>
    match rest with
    | [] => .option entry none
    | '=' :: value => .option entry (some (String.ofList value))
    | value => .option entry (some (String.ofList value))
  | none =>
    if letter = 'h' then .halt .help
    else if letter = 'V' && shape.hasVersion then .halt .version
    else .halt .usage

/-- The kind of an argument. A dash alone is plain. -/
def of (shape : Shape) (argument : String) : ArgumentKind :=
  if shape.commands.contains argument then .command argument
  else
    match argument.toList with
    | ['-', '-'] => .separator
    | '-' :: '-' :: text => ofLong shape text
    | '-' :: letter :: rest => ofShort shape letter rest
    | _ => .plain

end ArgumentKind

def canBeValue (argument : String) : Bool := !isDashed argument || argument = "-"

/-- Read arguments behind those already read. A command ends the reading. -/
def readMatches (shape : Shape) (found : Matches) : List String → Except Halt Matches
  | [] => .ok found
  | argument :: rest =>
    match ArgumentKind.of shape argument with
    | .separator => rest.foldlM (Matches.addPlain shape) found
    | .halt halt => .error halt
    | .command name => .ok { found with command := some (name, rest) }
    | .plain =>
      match found.addPlain shape argument with
      | .ok found => readMatches shape found rest
      | .error halt => .error halt
    | .option option attached =>
      if option.takesValue then
        match attached, rest with
        | some value, rest =>
          match found.addValue option.name value with
          | .ok found => readMatches shape found rest
          | .error halt => .error halt
        | none, [] => .error .usage
        | none, value :: more =>
          if !canBeValue value then .error .usage
          else
            match found.addValue option.name value with
            | .ok found => readMatches shape found more
            | .error halt => .error halt
      else if attached.isSome then .error .usage
      else
        match found.addFlag option.name with
        | .ok found => readMatches shape found rest
        | .error halt => .error halt

/-! ## The command and its parts -/

inductive Action where
  | render (input : String) (format output title : Option String)
  | inspect (input : String) (title : Option String)
  | stylesheet
deriving DecidableEq, Repr

structure Invocation where
  listFormats : Bool
  config : Option String
  action : Option Action
deriving DecidableEq, Repr

def listFormatsOption : OptionShape := { name := "list-formats", takesValue := false }

def configOption : OptionShape := { name := "config" }

/-- Options that may stand before and behind the name of a part. -/
def sharedOptions : List OptionShape := [listFormatsOption, configOption]

def partNames : List String := ["render", "inspect", "generate-css", "help"]

def wholeShape : Shape :=
  { options := sharedOptions, plain := 0, commands := partNames, hasVersion := true }

def renderShape : Shape :=
  { options := sharedOptions ++
      [{ name := "to" }, { name := "output", letter := some 'o' }, { name := "title" }]
    plain := 1 }

def inspectShape : Shape := { options := sharedOptions ++ [{ name := "title" }], plain := 1 }

def stylesheetShape : Shape := { options := sharedOptions, plain := 0 }

/-- The action of the arguments of a part, which must be complete. -/
def readPart (shape : Shape) (arguments : List String) (action : Matches → Option Action) :
    Except Halt (Matches × Action) := do
  let found ← readMatches shape {} arguments
  match action found with
  | some action => return (found, action)
  | none => .error .usage

def readNamedPart (name : String) (arguments : List String) : Except Halt (Matches × Action) :=
  if name = "render" then
    readPart renderShape arguments fun found => found.plain.head?.map fun input =>
      .render input (found.values.lookup "to") (found.values.lookup "output")
        (found.values.lookup "title")
  else if name = "inspect" then
    readPart inspectShape arguments fun found => found.plain.head?.map fun input =>
      .inspect input (found.values.lookup "title")
  else if name = "generate-css" then readPart stylesheetShape arguments fun _ => some .stylesheet
  else
    match arguments with
    | [] => .error .help
    | [part] => .error (if partNames.contains part then .help else .usage)
    | _ => .error .usage

/-- Read a command line that names its part. A shared option behind the name of the part goes
before one in front of it. -/
def readWhole (arguments : List String) : Except Halt Invocation := do
  let found ← readMatches wholeShape {} arguments
  let listFormats := found.flags.contains listFormatsOption.name
  let config := found.values.lookup configOption.name
  match found.command with
  | none =>
    if !listFormats && config.isNone then .error .usage else return ⟨listFormats, config, none⟩
  | some (name, rest) =>
    let (inner, action) ← readNamedPart name rest
    return ⟨inner.flags.contains listFormatsOption.name || listFormats,
      inner.values.lookup configOption.name <|> config, some action⟩

/-- Whether a first argument stands where the name of a part could, and names none. -/
def leavesOutPart : List String → Bool
  | [] => false
  | first :: _ => !isDashed first && !partNames.contains first

/-- The arguments with the name of the part that is left out. -/
def withPart (arguments : List String) : List String :=
  if leavesOutPart arguments then "render" :: arguments else arguments

/-- Read a command line. Where it cannot be read as it is, it is read with the part that it leaves
out. -/
def readArguments (arguments : List String) : Except Halt Invocation :=
  match readWhole arguments with
  | .ok invocation => .ok invocation
  | .error _ => readWhole (withPart arguments)

end Questionnaire.Command
