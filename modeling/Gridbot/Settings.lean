import Gridbot.Grid
import Gridbot.Log
import Gridbot.Text.Blank
import Gridbot.Text.Decimal
import Gridbot.Text.Quoted

/-!
# Settings

What a run of the program is told: a command file or none, the size of the board, the blocked
cells and how much of the log to show.

* A board size and a blocked cell are each written as two decimal numbers around a comma, with
  blanks allowed around either number (`numberPair?`).
* A zero dimension is a setting like any other; it is `Settings.grid` that refuses it.
-/

namespace Gridbot

/-! ## Pairs of numbers -/

/-- Cuts a character list at the first separator. -/
def cutAt? (separator : Char) (cs : List Char) : Option (List Char × List Char) :=
  match cs.dropWhile (· ≠ separator) with
  | [] => none
  | _ :: after => some (cs.takeWhile (· ≠ separator), after)

/-- The number written between blanks. -/
def paddedNumber? (cs : List Char) : Option UInt32 :=
  Text.ofDecimal? (String.ofList (Text.trimChars cs))

/-- Two numbers around the first comma of a text. -/
def numberPair? (text : String) : Option (UInt32 × UInt32) :=
  match cutAt? ',' text.toList with
  | none => none
  | some (before, after) =>
    match paddedNumber? before, paddedNumber? after with
    | some a, some b => some (a, b)
    | _, _ => none

/-! ## Values -/

/-- Why a setting's text is no value. -/
inductive ConfigError
  | boardSize (text : String)
  | obstacle (text : String)
  deriving DecidableEq, Repr

/-- The text of a configuration error. -/
def ConfigError.message : ConfigError → String
  | boardSize text =>
    "board size must be in the format 'length,width', got " ++ Text.quoted text
  | obstacle text => "obstacle must be in the format 'x,y', got " ++ Text.quoted text

/-- The dimensions asked for; they may be zero. -/
structure BoardSize where
  length : UInt32
  width : UInt32
  deriving DecidableEq, Repr

namespace BoardSize

/-- The board of a run that asks for none. -/
def standard : BoardSize := ⟨5, 5⟩

/-- The text of a board size. -/
def text (b : BoardSize) : String := Text.decimal b.length ++ "," ++ Text.decimal b.width

/-- Reads a board size. -/
def parse (text : String) : Except ConfigError BoardSize :=
  match numberPair? text with
  | some (length, width) => .ok ⟨length, width⟩
  | none => .error (.boardSize text)

end BoardSize

/-- Reads a blocked cell. -/
def parseObstacle (text : String) : Except ConfigError Cell :=
  match numberPair? text with
  | some (x, y) => .ok ⟨x, y⟩
  | none => .error (.obstacle text)

/-- A number of at least one digit, after a plus sign or none; 2^32 stands for all from there on.
-/
def signedNumber? (cs : List Char) : Option Nat :=
  let digits := if cs.head? = some '+' then cs.tail else cs
  if Text.isNumeral digits then some (Text.cappedValue digits) else none

/-- The verbosity of a number, from 0 for nothing to 5 for everything. -/
def Verbosity.ofNumber? : Nat → Option Verbosity
  | 0 => some .off
  | 1 => some (.upTo .error)
  | 2 => some (.upTo .warn)
  | 3 => some (.upTo .info)
  | 4 => some (.upTo .debug)
  | 5 => some (.upTo .trace)
  | _ => none

/-- The verbosity of a name in lower case. The empty name asks for errors. -/
def Verbosity.ofName? : String → Option Verbosity
  | "" => some (.upTo .error)
  | "off" => some .off
  | "error" => some (.upTo .error)
  | "warn" => some (.upTo .warn)
  | "info" => some (.upTo .info)
  | "debug" => some (.upTo .debug)
  | "trace" => some (.upTo .trace)
  | _ => none

/-- Reads a verbosity: a number, or a name in which the case of ASCII letters does not matter. -/
def Verbosity.parse? (text : String) : Option Verbosity :=
  match signedNumber? text.toList with
  | some n => ofNumber? n
  | none => ofName? (String.ofList (text.toList.map Char.toLower))

/-! ## Settings -/

/-- What a run of the program is told. -/
structure Settings where
  commandFile : Option String
  board : BoardSize
  /-- The blocked cells, in the order given. -/
  obstacles : List Cell
  verbosity : Verbosity
  deriving DecidableEq, Repr

/-- The grid that the settings describe. -/
def Settings.grid (s : Settings) : Except GridError Grid :=
  Grid.ofCells? s.board.length s.board.width s.obstacles

end Gridbot
