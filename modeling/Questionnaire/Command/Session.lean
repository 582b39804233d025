import Questionnaire.Files.Directory

/-! A run of the command as a value: the files it asks for, one after the other, and how it ends.
The same session runs on a directory value and on real files. -/

namespace Questionnaire.Command

inductive ExitStatus where
  | success
  | failure
  /-- The arguments could not be understood. -/
  | usage
deriving DecidableEq, Repr

def ExitStatus.code : ExitStatus → Nat
  | success => 0
  | failure => 1
  | usage => 2

structure Outcome where
  status : ExitStatus
  output : String
  log : List String
deriving DecidableEq, Repr

/-- A run that has still to read or write files, or is over. -/
inductive Session where
  | done (outcome : Outcome)
  | read (path : String) (next : Except FileFault ByteArray → Session)
  | write (path text : String) (next : Except FileFault Unit → Session)

namespace Session

def print (output : String) (log : List String) : Session := done ⟨.success, output, log⟩

def fail (log : List String) : Session := done ⟨.failure, "", log⟩

/-- Read a file that has to be text. -/
def readText (path : String) (next : Except FileFault String → Session) : Session :=
  read path fun
    | .error fault => next (.error fault)
    | .ok bytes =>
      match String.fromUTF8? bytes with
      | some text => next (.ok text)
      | none => next (.error .notText)

def run (directory : Directory) : Session → Outcome × Directory
  | done outcome => (outcome, directory)
  | read path next => (next (directory.read path)).run directory
  | write path text next =>
    match directory.write path text.toUTF8 with
    | .ok after => (next (.ok ())).run after
    | .error fault => (next (.error fault)).run directory

end Session
end Questionnaire.Command
