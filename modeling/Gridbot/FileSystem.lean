import Gridbot.Text.Lossy

/-!
# File systems

What a program learns of a file from the system: what stands at its path, and what comes of opening
it and of reading it to the end. Every answer can be an error, and the answers need not fit each
other. A file may hold more than its size tells, be denied although it is there, or fail halfway.

* `Path.display`: a path is any bytes, and is shown as text as well as it can be.
* `Path.fileName?`: `.` and empty components aside, the last one, if it is the name of an entry.
-/

namespace Gridbot

/-! ## Paths -/

/-- Bytes that lead to a file. -/
structure Path where
  bytes : List UInt8
  deriving DecidableEq, Repr

namespace Path

def slash : UInt8 := 0x2F

def dot : UInt8 := 0x2E

/-- The path that a text spells. -/
def ofText (text : String) : Path := ⟨text.toUTF8.data.toList⟩

/-- What stands between the slashes of a path. -/
def components (path : Path) : List (List UInt8) := path.bytes.splitOn slash

def fileName? (path : Path) : Option (List UInt8) :=
  (path.components.reverse.find? fun c => c ≠ [] ∧ c ≠ [dot]).filter (· ≠ [dot, dot])

def display (path : Path) : String :=
  (String.fromUTF8? ⟨path.bytes.toArray⟩).getD (Text.lossy path.bytes)

end Path

/-! ## Answers of the system -/

/-- The kinds of errors that are told apart. -/
inductive ErrorKind
  | notFound | permissionDenied | other
  deriving DecidableEq, Repr

/-- An error of the system, in its own words. -/
structure SystemError where
  kind : ErrorKind
  message : String
  deriving DecidableEq, Repr

/-- What stands at a path. -/
inductive Metadata
  /-- A regular file of so many bytes, as the system has it. -/
  | regular (size : Nat)
  | other
  deriving DecidableEq, Repr

/-- A system of files. -/
structure FileSystem where
  metadata : Path → Except SystemError Metadata
  /-- What comes of opening a file; and if that succeeds, of reading it. -/
  openFile : Path → Except SystemError (Except SystemError ByteArray)

end Gridbot
