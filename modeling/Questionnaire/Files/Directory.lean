import Questionnaire.Entries
import Questionnaire.Text.Cut

/-! A directory as a value: files by their place, and what reading and writing by a path does. What
lies outside the directory is not known. -/

namespace Questionnaire

open Text

inductive FileFault where
  | notFound
  | isDirectory
  | notDirectory
  | nameTooLong
  /-- The path holds the character that ends paths. -/
  | nulInName
  /-- The bytes are no text. -/
  | notText
  | other (reason : String)
deriving DecidableEq, Repr

def FileFault.message : FileFault → String
  | notFound => "No such file or directory (os error 2)"
  | isDirectory => "Is a directory (os error 21)"
  | notDirectory => "Not a directory (os error 20)"
  | nameTooLong => "File name too long (os error 36)"
  | nulInName => "file name contained an unexpected NUL byte"
  | notText => "stream did not contain valid UTF-8"
  | other reason => reason

/-- The names that lead from a directory to a file in it. -/
abbrev Place := List (List Char)

/-- The files in and below a directory. Other directories exist as far as they hold files. -/
structure Directory where
  files : Entries Place ByteArray

namespace Directory

def file? (directory : Directory) (place : Place) : Option ByteArray :=
  directory.files.lookup place

def isFolder (directory : Directory) (place : Place) : Bool :=
  place.isEmpty || directory.files.any fun (other, _) =>
    place.length < other.length && place.isPrefixOf other

def nameLimit : Nat := 255

def pathLimit : Nat := 4095

def byteCount (chars : List Char) : Nat := (String.ofList chars).utf8ByteSize

inductive Target where
  | inside (place : Place)
  /-- A directory around this one. -/
  | around
  /-- A name in a directory around this one. -/
  | outside
  /-- A file that is always empty. -/
  | nothing
deriving DecidableEq

def nothingPath : String := "/dev/null"

/-- Follow the parts of a path. Every part needs a directory to start from. -/
def follow (directory : Directory) : Target → List (List Char) → Except FileFault Target
  | target, [] => .ok target
  | .around, part :: rest =>
    if part.isEmpty || part = ['.'] || part = ['.', '.'] then directory.follow .around rest
    else if nameLimit < byteCount part then .error .nameTooLong
    else directory.follow .outside rest
  | .outside, _ :: _ => .error .notFound
  | .nothing, _ :: _ => .error .notDirectory
  | .inside place, part :: rest =>
    if !directory.isFolder place then
      .error (if (directory.file? place).isSome then .notDirectory else .notFound)
    else if part.isEmpty || part = ['.'] then directory.follow (.inside place) rest
    else if part = ['.', '.'] then
      directory.follow (if place.isEmpty then .around else .inside place.dropLast) rest
    else if nameLimit < byteCount part then .error .nameTooLong
    else directory.follow (.inside (place ++ [part])) rest

/-- The parts of a path that leads somewhere, and where it starts. -/
def start (path : String) : Except FileFault (Target × List (List Char)) :=
  let chars := path.toList
  if chars.contains '\x00' then .error .nulInName
  else if pathLimit < byteCount chars then .error .nameTooLong
  else if path = nothingPath then .ok (.nothing, [])
  else
    match chars with
    | [] => .error .notFound
    | '/' :: rest => .ok (.around, splitAt '/' rest)
    | _ => .ok (.inside [], splitAt '/' chars)

def read (directory : Directory) (path : String) : Except FileFault ByteArray := do
  let (origin, parts) ← start path
  match ← directory.follow origin parts with
  | .around => .error .isDirectory
  | .outside => .error .notFound
  | .nothing => return .empty
  | .inside place =>
    match directory.file? place with
    | some bytes => return bytes
    | none => .error (if directory.isFolder place then .isDirectory else .notFound)

/-- Write the file that a path leads to, over one that is there. A path that ends in a slash names
no file, and what lies outside is written without a trace here. -/
def write (directory : Directory) (path : String) (bytes : ByteArray) :
    Except FileFault Directory := do
  let (origin, parts) ← start path
  let named := parts.reverse.dropWhile (·.isEmpty)
  if named.length < parts.length then
    -- the directory around the name still has to be there
    let _ ← directory.follow origin (named.tail.reverse ++ [[]])
    .error .isDirectory
  else
    match ← directory.follow origin parts with
    | .around => .error .isDirectory
    | .outside | .nothing => return directory
    | .inside place =>
      if directory.isFolder place then .error .isDirectory
      else return ⟨directory.files.put place bytes⟩

end Directory
end Questionnaire
