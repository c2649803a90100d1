import Gridbot.FileSystem
import Gridbot.Log
import Gridbot.Text.Blank
import Gridbot.Text.Decimal
import Gridbot.Text.Pieces

/-!
# Command files

A file of instructions, one on a line. It must be a readable regular file whose name has no dot,
of at most `maxSize` bytes, and hold text.

* `load` gives the error of the first check that fails: a path is given, it leads somewhere, to a
  regular file, which can be opened, has a plain name, is small enough, can be read and holds text.
* `instructions` are the lines without the blanks at their ends, blank lines left out.
-/

namespace Gridbot

/-- Why a file cannot be used as a source of instructions. -/
inductive SourceError
  /-- No path was given. -/
  | missing
  | notFound (path : Path)
  /-- Not a regular file, or one that may not be read. -/
  | notReadable (path : Path)
  /-- Whatever else the system says. -/
  | system (cause : SystemError)
  /-- The file's name has a dot. -/
  | invalidName (path : Path)
  | tooLarge (size : Nat)
  | notText (path : Path)
  deriving DecidableEq, Repr

namespace SourceError

/-- The error of a command file that is not found. -/
def ofMetadata (path : Path) (e : SystemError) : SourceError :=
  match e.kind with
  | .notFound => notFound path
  | .permissionDenied => notReadable path
  | .other => system e

/-- The error of a command file that does not open. -/
def ofOpening (path : Path) (e : SystemError) : SourceError :=
  if e.kind = .permissionDenied then notReadable path else system e

end SourceError

/-- A command file that was read. -/
structure CommandFile where
  path : Path
  commands : List String
  deriving DecidableEq, Repr

/-- The instructions of a text. -/
def instructions (text : String) : List String :=
  ((Text.pieces '\n' text).map Text.trim).filter (· ≠ "")

namespace CommandFile

/-- The largest command file, in bytes. -/
def maxSize : Nat := 1048576

def hasDottedName (path : Path) : Bool := path.fileName?.any fun name => name.contains Path.dot

/-- Reads an open file of some size as a command file. -/
def ofOpen (path : Path) (size : Nat) (contents : Except SystemError ByteArray) :
    Except SourceError CommandFile :=
  if hasDottedName path then .error (.invalidName path)
  else if size > maxSize then .error (.tooLarge size)
  else
    match contents with
    | .error e => .error (.system e)
    | .ok bytes =>
      match String.fromUTF8? bytes with
      | none => .error (.notText path)
      | some text => .ok ⟨path, instructions text⟩

/-- Finds and reads a command file. -/
def load (fs : FileSystem) (path : Path) : Except SourceError CommandFile :=
  if path.bytes = [] then .error .missing
  else
    match fs.metadata path with
    | .error e => .error (.ofMetadata path e)
    | .ok .other => .error (.notReadable path)
    | .ok (.regular size) =>
      match fs.openFile path with
      | .error e => .error (.ofOpening path e)
      | .ok contents => ofOpen path size contents

/-- What the log says when a command file was read. -/
def loaded (f : CommandFile) : LogEvent := .fileLoaded f.commands.length f.path.display

end CommandFile

/-- The text of a source error. -/
def SourceError.message : SourceError → String
  | missing => "command file is required"
  | notFound path => "command file " ++ path.display ++ " does not exist"
  | notReadable path => "command file " ++ path.display ++ " is not readable"
  | system cause => cause.message
  | invalidName path => "command file type is not valid: " ++ path.display
  | tooLarge size =>
    "command file size is too large: " ++ toString size ++ " bytes (limit "
      ++ toString CommandFile.maxSize ++ ")"
  | notText path => "command file " ++ path.display ++ " must be a plain text file"

end Gridbot
