import Gridbot.Text.Cluster

/-!
# Arrivals

What a session may find when it asks for the next line.

* `arrivals` gives what an input stream holds when nobody edits it: its lines, in which every
  backspace takes back a grapheme cluster, then its end. A line that is no text cannot be read.
-/

namespace Gridbot

/-- What may arrive at a session that waits for a line. -/
inductive Arrival
  | line (text : String)
  | interrupt
  | endOfInput
  /-- A line that is no text. -/
  | unreadable
  deriving DecidableEq, Repr

/-! ## Input streams -/

/-- Drops one carriage return at the end of a line. -/
def dropCarriageReturn (cs : List Char) : List Char :=
  if cs.getLast? = some '\r' then cs.dropLast else cs

/-- The arrival of a line given by its bytes. -/
def Arrival.ofBytes (terminated : Bool) (bytes : List UInt8) : Arrival :=
  match String.fromUTF8? ⟨bytes.toArray⟩ with
  | none => .unreadable
  | some text =>
    let cs := if terminated then dropCarriageReturn text.toList else text.toList
    .line (String.ofList (Text.eraseBackspaces cs))

/-- What arrives from an input stream: one line up to each line feed, then the rest unless it is
empty, then the end of the input. -/
def arrivals (input : ByteArray) : List Arrival :=
  let pieces := input.data.toList.splitOn 0x0A
  let rest := pieces.getLast?.getD []
  pieces.dropLast.map (Arrival.ofBytes true)
    ++ ((if rest = [] then [] else [Arrival.ofBytes false rest]) ++ [.endOfInput])

end Gridbot
