import Gridbot.CommandFile
import Gridbot.Session.Dialogue
import Gridbot.Settings.Arguments

/-!
# The program

One run from its arguments to its exit status, with what it writes to standard output and standard
error. Standard output carries reports, or the help text; the log and errors go to standard error.

* `prepare` settles everything that comes before the first line: the arguments, the grid, the
  file.
* `run` is the whole run on given input and files.
-/

namespace Gridbot

/-! ## Failures -/

/-- A fatal error: what failed, and the causes behind it, the nearest first. -/
structure Failure where
  context : String
  causes : List String
  deriving DecidableEq, Repr

namespace Failure

/-- A text with `margin` put in front of every line but the first. -/
def indent (margin : String) (text : String) : String :=
  ("\n" ++ margin).intercalate (Text.pieces '\n' text)

/-- The causes, numbered if there are several. -/
def causeLines : List String → String
  | [] => ""
  | [cause] => "\n    " ++ indent "    " cause
  | causes =>
    String.join <| causes.mapIdx fun i cause =>
      "\n    " ++ toString i ++ ": " ++ indent "       " cause

/-- The text of a failure as the program's last words. -/
def text (f : Failure) : String :=
  "Error: " ++ f.context
    ++ (if f.causes.isEmpty then "" else "\n\nCaused by:" ++ causeLines f.causes) ++ "\n"

/-- The failure of a session. -/
def ofSession (e : SessionError) : Failure := ⟨e.message, e.causes⟩

/-- The failure of a run whose grid cannot be built. -/
def ofGrid (board : BoardSize) (e : GridError) : Failure :=
  ⟨"invalid board size " ++ board.text, [e.message]⟩

/-- The failure of a run whose command file cannot be used. -/
def ofSource (path : String) (e : SourceError) : Failure :=
  ⟨"can't load commands from " ++ path, [e.message]⟩

end Failure

/-! ## Runs -/

/-- How a run ends. -/
structure Exit where
  status : UInt8
  stdout : ByteArray
  stderr : String

namespace Program

/-- The end of a run whose arguments are refused. -/
def refuse (e : ArgumentError) : Exit :=
  ⟨1, .empty, e.message ++ "\nRun " ++ programName ++ " --help for more information.\n"⟩

/-- The end of a run that asks for help. -/
def help : Exit := ⟨0, (helpText ++ "\n").toUTF8, ""⟩

/-- The end of a run that fails before its session, with the log so far. -/
def fail (v : Verbosity) (log : List LogEvent) (f : Failure) : Exit :=
  ⟨1, .empty, v.render log ++ f.text⟩

/-- The end of a run that came to a session's end. -/
def finish (v : Verbosity) (s : Session) : Except SessionError Unit → Exit
  | .ok () => ⟨0, s.sink.bytes, v.render (.started :: s.log.toList)⟩
  | .error e =>
    ⟨1, s.sink.bytes, v.render (.started :: s.log.toList) ++ (Failure.ofSession e).text⟩

/-- A run that is ready for its first line. -/
structure Ready where
  verbosity : Verbosity
  session : Session
  /-- The lines of the command file, if there is one. -/
  lines? : Option (List String)

/-- Settles the arguments, the grid and the command file, which `load` reads. -/
def prepare (load : Path → Except SourceError CommandFile) (arguments : List String) :
    Except Exit Ready :=
  match Invocation.ofArguments arguments with
  | .error e => .error (refuse e)
  | .ok .help => .error help
  | .ok (.run s) =>
    match s.grid with
    | .error e => .error (fail s.verbosity [.started] (.ofGrid s.board e))
    | .ok g =>
      let session := Session.start g {}
      match s.commandFile with
      | none => .ok ⟨s.verbosity, session, none⟩
      | some path =>
        match load (.ofText path) with
        | .error e => .error (fail s.verbosity (.started :: session.log.toList) (.ofSource path e))
        | .ok file =>
          .ok ⟨s.verbosity, session.note file.loaded, some file.commands⟩

/-- A whole run: the command file's lines if there is one, else the lines of standard input. -/
def run (fs : FileSystem) (input : ByteArray) (arguments : List String) : Exit :=
  match prepare (CommandFile.load fs) arguments with
  | .error exit => exit
  | .ok ready =>
    let (session, result) :=
      match ready.lines? with
      | some lines => ready.session.runLines lines
      | none => ready.session.converse (arrivals input)
    finish ready.verbosity session result

end Program

end Gridbot
