import Gridbot.Command
import Gridbot.Text.Blank
import Gridbot.Text.Pieces
import Gridbot.Text.Quoted

/-!
# Reading commands

An instruction is one of the five single words, or `PLACE `, with exactly that space, and three
fields between commas: column, row and heading. Blanks around a field are ignored; blanks around
the whole instruction are not.

The first rule that a text breaks decides the error: it is blank; it begins with no known word; it
has the wrong number of fields; its first or second field is no coordinate; its third is no
heading.
-/

namespace Gridbot

/-- Why a text is no instruction. -/
inductive ParseError
  /-- There is nothing but blanks. -/
  | empty
  /-- The whole text begins with no known word. -/
  | unknown (line : String)
  /-- What follows `PLACE ` has a wrong number of fields. -/
  | fieldCount (count : Nat)
  /-- A field is no decimal number of at most 32 bits. -/
  | coordinate (field : String)
  /-- A field is no heading token. -/
  | heading (field : String)
  deriving DecidableEq, Repr

/-- The text of a parse error. -/
def ParseError.message : ParseError → String
  | empty => "empty instruction"
  | unknown line => "unknown instruction: " ++ Text.quoted line
  | fieldCount count => "PLACE expects 3 comma separated fields, got " ++ toString count
  | coordinate field => "invalid coordinate: " ++ Text.quoted field
  | heading field => "invalid heading: " ++ Text.quoted field

/-- A placement from its three fields. -/
def Placement.ofFields (x y h : String) : Except ParseError Placement :=
  match Text.ofDecimal? x, Text.ofDecimal? y, Heading.ofToken? h with
  | none, _, _ => .error (.coordinate x)
  | some _, none, _ => .error (.coordinate y)
  | some _, some _, none => .error (.heading h)
  | some x, some y, some h => .ok ⟨⟨x, y⟩, h⟩

namespace Command

/-- The trimmed fields behind the word `PLACE` and its space. -/
def placeFields? (line : String) : Option (List String) :=
  ("PLACE ".toList.isPrefixOf? line.toList).map fun rest =>
    (Text.pieces ',' (String.ofList rest)).map Text.trim

/-- Reads one instruction. -/
def parse (line : String) : Except ParseError Command :=
  match ofToken? line with
  | some c => .ok c
  | none =>
    if Text.trim line = "" then .error .empty
    else
      match placeFields? line with
      | none => .error (.unknown line)
      | some [x, y, h] => (Placement.ofFields x y h).map place
      | some fields => .error (.fieldCount fields.length)

/-- Reads one instruction and drops the reason of a failure. -/
def parse? (line : String) : Option Command := (parse line).toOption

end Command

end Gridbot
