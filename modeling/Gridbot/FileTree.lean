import Gridbot.FileSystem

/-!
# File trees

Regular files, directories, links and whatever else has a name, with permissions, as a file system.
A path is walked from a place in the tree, component by component, and the first component that
cannot be taken decides the error.

* Only a directory has something below it. Where a regular file stands, not even `.` or an empty
  component can follow.
* A directory that may not be searched gives nothing away, not even itself as `.`.
* `..` leads to the directory above; above the root there is only the root.
* A link leads on from the directory that holds it, or from the root, and a walk may follow only so
  many.
-/

namespace Gridbot

namespace SystemError

def notFound : SystemError := ⟨.notFound, "No such file or directory (os error 2)"⟩

def denied : SystemError := ⟨.permissionDenied, "Permission denied (os error 13)"⟩

def notDirectory : SystemError := ⟨.other, "Not a directory (os error 20)"⟩

def isDirectory : SystemError := ⟨.other, "Is a directory (os error 21)"⟩

def nameTooLong : SystemError := ⟨.other, "File name too long (os error 36)"⟩

def tooManyLinks : SystemError := ⟨.other, "Too many levels of symbolic links (os error 40)"⟩

def nulInPath : SystemError := ⟨.other, "file name contained an unexpected NUL byte"⟩

end SystemError

/-- A node of a tree. -/
inductive FileTree
  | file (content : ByteArray) (readable : Bool)
  | directory (entries : List (List UInt8 × FileTree)) (searchable : Bool)
  | link (target : Path)
  /-- A pipe, a socket or a device, and what comes of opening it. -/
  | special (opened : Except SystemError (Except SystemError ByteArray))

namespace FileTree

def metadata : FileTree → Metadata
  | file content _ => .regular content.size
  | directory _ _ | link _ | special _ => .other

/-- What comes of opening a node and reading it. -/
def opened : FileTree → Except SystemError (Except SystemError ByteArray)
  | file content readable => if readable then .ok (.ok content) else .error .denied
  | directory _ _ => .ok (.error .isDirectory)
  | link _ => .error .tooManyLinks
  | special opened => opened

end FileTree

/-- A place in a tree: a node, and the directories above it, the nearest first. -/
structure Place where
  above : List FileTree := []
  node : FileTree

namespace Place

def root (here : Place) : Place := { node := here.above.getLast?.getD here.node }

def parent : Place → Place
  | ⟨[], node⟩ => ⟨[], node⟩
  | ⟨directory :: above, _⟩ => ⟨above, directory⟩

/-- Where the walk of a path begins. -/
def start (here : Place) (path : Path) : Place :=
  if path.bytes.head? = some Path.slash then here.root else here

/-- The longest name of an entry, in bytes. -/
def maxName : Nat := 255

/-- The longest path, in bytes. -/
def maxPath : Nat := 4095

/-- How many links a walk may follow. -/
def maxLinks : Nat := 40

/-- Takes one component after the other. Where there is a link, `follow` takes its components and
the rest. -/
def walkWith (follow : Place → List (List UInt8) → Except SystemError Place) :
    Place → List (List UInt8) → Except SystemError Place
  | here, [] => .ok here
  | here, name :: rest =>
    match here.node with
    | .directory entries searchable =>
      if name = [] then walkWith follow here rest
      else if !searchable then .error .denied
      else if name = [Path.dot] then walkWith follow here rest
      else if name = [Path.dot, Path.dot] then walkWith follow here.parent rest
      else if name.length > maxName then .error .nameTooLong
      else
        match entries.lookup name with
        | none => .error .notFound
        | some (.link target) => follow (here.start target) (target.components ++ rest)
        | some node => walkWith follow ⟨here.node :: here.above, node⟩ rest
    | .file _ _ | .link _ | .special _ => .error .notDirectory

/-- Walks along some components, and follows so many links at most. -/
def walk : Nat → Place → List (List UInt8) → Except SystemError Place
  | 0 => walkWith fun _ _ => .error .tooManyLinks
  | links + 1 => walkWith (walk links)

/-- What a path leads to. -/
def lookup (here : Place) (path : Path) : Except SystemError FileTree :=
  if path.bytes.contains 0 then .error .nulInPath
  else if path.bytes.length > maxPath then .error .nameTooLong
  else (walk maxLinks (here.start path) path.components).map node

/-- The files of a tree, for a program that works at a place in it. -/
def fileSystem (here : Place) : FileSystem where
  metadata path := (here.lookup path).map FileTree.metadata
  openFile path := (here.lookup path).bind FileTree.opened

end Place

end Gridbot
