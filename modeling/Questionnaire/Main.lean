import Questionnaire.Command.Run

/-! The command line program. -/

namespace Questionnaire.Command

def faultOf : IO.Error → FileFault
  | .noFileOrDirectory .. => .notFound
  | .inappropriateType .. => .isDirectory
  | error => .other (toString error)

def readBytes (path : String) : IO (Except FileFault ByteArray) := do
  try return .ok (← IO.FS.readBinFile path) catch error => return .error (faultOf error)

def writeText (path text : String) : IO (Except FileFault Unit) := do
  try
    IO.FS.writeFile path text
    return .ok ()
  catch error => return .error (faultOf error)

def Session.perform : Session → IO UInt32
  | done outcome => do
    for line in outcome.log do
      IO.eprintln line
    IO.print outcome.output
    return outcome.status.code.toUInt32
  | read path next => do (next (← readBytes path)).perform
  | write path text next => do (next (← writeText path text)).perform

end Questionnaire.Command

def main (arguments : List String) : IO UInt32 :=
  (Questionnaire.Command.session arguments).perform
