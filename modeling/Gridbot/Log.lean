import Gridbot.Command.Parser
import Gridbot.Robot

/-!
# The log

What a session notes down, as values: each event has a level, the part of the program it comes
from and a message. How much of it is shown is chosen by a verbosity.

* `Verbosity.allows`: a verbosity shows its own level and every more severe one.
* `terminalSafe`: a shown message holds none of the characters that start a terminal's control
  sequences, nor a bell, backspace, form feed or delete.
-/

namespace Gridbot

/-! ## Levels -/

/-- How severe an event is, the most severe first. -/
inductive Level
  | error | warn | info | debug | trace
  deriving DecidableEq, Repr

namespace Level

/-- The place of a level in the order of severity, from one. -/
def rank : Level → Nat
  | error => 1
  | warn => 2
  | info => 3
  | debug => 4
  | trace => 5

/-- The word for a level in front of a message. -/
def label : Level → String
  | error => "ERROR"
  | warn => "WARN"
  | info => "INFO"
  | debug => "DEBUG"
  | trace => "TRACE"

end Level

/-- How much of the log is shown. -/
inductive Verbosity
  | off
  | upTo (l : Level)
  deriving DecidableEq, Repr

namespace Verbosity

/-- Whether events of a level are shown. -/
def allows : Verbosity → Level → Bool
  | off, _ => false
  | upTo most, l => l.rank ≤ most.rank

end Verbosity

/-! ## Events -/

/-- Something a session notes down. -/
inductive LogEvent
  /-- The program starts. -/
  | started
  /-- A session starts on a grid. -/
  | gridInitialized (length width : UInt32)
  /-- A command file was read. -/
  | fileLoaded (count : Nat) (path : String)
  /-- A line, without the blanks at its ends, is about to be carried out. -/
  | executing (line : String)
  /-- The line was no instruction. -/
  | invalid (line : String) (e : ParseError)
  /-- A command changed the robot, or could have. -/
  | applied (c : Command) (s : RobotState)
  /-- A report is about to be written. -/
  | reported (p : Placement)
  /-- A command came before the first placement. -/
  | ignored (c : Command)
  /-- A command led to a cell where the robot may not stand. -/
  | rejected (c : Command) (r : Rejection)
  /-- The session was interrupted. -/
  | interrupted
  /-- The input came to its end. -/
  | endOfInput
  deriving DecidableEq, Repr

/-- The name and version that the program announces. -/
def programName : String := "grid_robot"

/-- The version that the program announces. -/
def programVersion : String := "0.1.0"

namespace LogEvent

/-- The event that an executed command leaves behind, given the state after it. -/
def ofOutcome (c : Command) (s : RobotState) : Outcome → LogEvent
  | .applied => applied c s
  | .reported p => reported p
  | .rejected .notPlaced => ignored c
  | .rejected r => rejected c r

def level : LogEvent → Level
  | executing _ | ignored _ => .debug
  | invalid _ _ | rejected _ _ => .warn
  | _ => .info

def message : LogEvent → String
  | started => programName ++ " v" ++ programVersion ++ " running..."
  | gridInitialized length width =>
    "Grid initialized with length: " ++ Text.decimal length ++ " and width: " ++ Text.decimal width
  | fileLoaded count path =>
    "Successfully parsed " ++ toString count ++ " commands from " ++ path
  | executing line => "Executing command: " ++ line
  | invalid line e => "Invalid command " ++ Text.quoted line ++ ": " ++ e.message
  | applied c s => c.text ++ ": robot now at " ++ s.describe
  | reported p => p.report
  | ignored c => "Robot is not placed on the grid, ignoring " ++ c.text
  | rejected c r => c.text ++ " rejected: " ++ r.message
  | interrupted => "Interrupted"
  | endOfInput => "Eof"

/-- The part of the program that an event comes from. -/
def source : LogEvent → String
  | started => programName
  | fileLoaded _ _ => programName ++ "::source"
  | _ => programName ++ "::interpreter"

/-! ## Shown lines -/

/-- Writes the escape character, the C1 controls, and bell, backspace, form feed and delete as
escapes. -/
def terminalSafeChar (c : Char) : List Char :=
  if c = '\x1b' then ['\\', 'x', '1', 'b']
  else if c = '\x07' then ['\\', 'x', '0', '7']
  else if c = '\x08' then ['\\', 'x', '0', '8']
  else if c = '\x0c' then ['\\', 'x', '0', 'c']
  else if c = '\x7f' then ['\\', 'x', '7', 'f']
  else if 0x80 ≤ c.toNat && c.toNat ≤ 0x9F then Text.codeEscape c
  else [c]

/-- A message as it may go to a terminal. -/
def terminalSafe (text : String) : String := String.ofList (text.toList.flatMap terminalSafeChar)

/-- The line that shows an event: the level in five columns, where it comes from, and the message.
-/
def line (e : LogEvent) : String :=
  let label := e.level.label
  String.ofList (List.replicate (5 - label.length) ' ') ++ label ++ " " ++ e.source ++ ": "
    ++ terminalSafe e.message ++ "\n"

end LogEvent

/-- The lines of a log that a verbosity shows. -/
def Verbosity.render (v : Verbosity) (log : List LogEvent) : String :=
  String.join ((log.filter fun e => v.allows e.level).map LogEvent.line)

end Gridbot
