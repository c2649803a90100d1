import Gridbot.Settings

/-!
# Command line arguments

Arguments are taken from left to right, and the first that cannot be taken decides the error. An
option takes the argument after it as its value, whatever that looks like. After `--` every
argument is a plain one; the only plain argument is the command file.

* `help` and `--help`, before any `--`, ask for the help text; no option may follow them.
* The board and the log level can be given once, obstacles any number of times.
-/

namespace Gridbot

/-! ## Options -/

/-- What an option sets. -/
inductive OptionKind
  | board | obstacle | logLevel
  deriving DecidableEq, Repr

/-- The option that an argument spells. -/
def OptionKind.ofSpelling? : String → Option OptionKind
  | "-b" | "--board" => some board
  | "-o" | "--obstacle" => some obstacle
  | "--log-level" => some logLevel
  | _ => none

/-- Why the value of an option is refused. -/
inductive ValueError
  /-- The option was given before and takes one value only. -/
  | duplicate
  | config (e : ConfigError)
  | logLevel
  deriving DecidableEq, Repr

/-- The text of a value error. -/
def ValueError.message : ValueError → String
  | duplicate => "duplicate values provided"
  | config e => e.message
  | logLevel =>
    "error parsing level filter: expected one of \"off\", \"error\", \"warn\", \"info\", "
      ++ "\"debug\", \"trace\", or a number 0-5"

/-- Why the arguments of a run are refused. -/
inductive ArgumentError
  /-- An option after a request for help. -/
  | optionAfterHelp
  /-- An option at the end, with no argument left for its value. -/
  | missingValue (option : String)
  /-- An unknown option, or a second plain argument. -/
  | unrecognized (argument : String)
  | badValue (option value : String) (e : ValueError)
  deriving DecidableEq, Repr

/-- The text of an argument error. -/
def ArgumentError.message : ArgumentError → String
  | optionAfterHelp => "Trailing arguments are not allowed after `help`."
  | missingValue option => "No value provided for option '" ++ option ++ "'.\n"
  | unrecognized argument => "Unrecognized argument: " ++ argument ++ "\n"
  | badValue option value e =>
    "Error parsing option '" ++ option ++ "' with value '" ++ value ++ "': " ++ e.message ++ "\n"

/-! ## Reading -/

/-- What was asked for so far. -/
structure Request where
  help : Bool
  optionsEnded : Bool
  commandFile : Option String
  board : Option BoardSize
  /-- The blocked cells, the latest first. -/
  obstacles : List Cell
  verbosity : Option Verbosity
  deriving DecidableEq, Repr

namespace Request

/-- Nothing asked for. -/
def none : Request := ⟨false, false, .none, .none, [], .none⟩

/-- Takes the value of an option. -/
def setOption (r : Request) (value : String) : OptionKind → Except ValueError Request
  | .board =>
    if r.board.isSome then .error .duplicate
    else
      match BoardSize.parse value with
      | .ok b => .ok { r with board := some b }
      | .error e => .error (.config e)
  | .obstacle =>
    match parseObstacle value with
    | .ok c => .ok { r with obstacles := c :: r.obstacles }
    | .error e => .error (.config e)
  | .logLevel =>
    if r.verbosity.isSome then .error .duplicate
    else
      match Verbosity.parse? value with
      | some v => .ok { r with verbosity := some v }
      | .none => .error .logLevel

/-- Takes a plain argument. -/
def setPlain (r : Request) (argument : String) : Except ArgumentError Request :=
  match r.commandFile with
  | .none => .ok { r with commandFile := some argument }
  | some _ => .error (.unrecognized argument)

/-- Takes all arguments. -/
def read (r : Request) : List String → Except ArgumentError Request
  | [] => .ok r
  | a :: rest =>
    if r.optionsEnded then
      match r.setPlain a with
      | .ok r => r.read rest
      | .error e => .error e
    else if a = "--help" ∨ a = "help" then { r with help := true }.read rest
    else if a = "--" then { r with optionsEnded := true }.read rest
    else if a.toList.head? = some '-' then
      if r.help then .error .optionAfterHelp
      else
        match OptionKind.ofSpelling? a, rest with
        | .none, _ => .error (.unrecognized a)
        | some _, [] => .error (.missingValue a)
        | some kind, value :: rest =>
          match r.setOption value kind with
          | .ok r => r.read rest
          | .error e => .error (.badValue a value e)
    else
      match r.setPlain a with
      | .ok r => r.read rest
      | .error e => .error e

/-- The settings of a request; what was not asked for takes its standard value. -/
def settings (r : Request) : Settings where
  commandFile := r.commandFile
  board := r.board.getD .standard
  obstacles := r.obstacles.reverse
  verbosity := r.verbosity.getD .off

end Request

/-- What a list of arguments asks for. -/
inductive Invocation
  | help
  | run (s : Settings)
  deriving DecidableEq, Repr

/-- Reads the arguments of a run. -/
def Invocation.ofArguments (arguments : List String) : Except ArgumentError Invocation :=
  match Request.none.read arguments with
  | .error e => .error e
  | .ok r => .ok (if r.help then .help else .run r.settings)

/-- The help text. -/
def helpText : String :=
  "Usage: grid_robot [-b <board>] [-o <obstacle...>] [--log-level <log-level>] [--] "
    ++ "[<command_file>]\n"
    ++ "\n"
    ++ "Simulate a robot on a rectangular grid. Reads instructions from COMMAND_FILE, or from an "
    ++ "interactive prompt when no file is given. Valid instructions are PLACE x,y,HEADING, MOVE, "
    ++ "LEFT, RIGHT, FLIP and REPORT.\n"
    ++ "\n"
    ++ "Positional Arguments:\n"
    ++ "  command_file      file with one instruction per line. The name must have no\n"
    ++ "                    extension.\n"
    ++ "\n"
    ++ "Options:\n"
    ++ "  -b, --board       grid size as 'length,width'. Defaults to 5,5.\n"
    ++ "  -o, --obstacle    a blocked cell as 'x,y'. May be repeated.\n"
    ++ "  --log-level       diagnostics level: off, error, warn, info, debug or trace.\n"
    ++ "                    Logs go to stderr.\n"
    ++ "  --help, help      display usage information\n"

end Gridbot
