import Gridbot.Cell
import Gridbot.Text.Decimal

/-!
# Placements

Where a robot stands and which way it faces, and the two ways in which a placement is written: the
report line `2,2,EAST`, and the description in log messages.
-/

namespace Gridbot

/-- A cell and a heading. -/
structure Placement where
  cell : Cell
  heading : Heading
  deriving DecidableEq, Repr

namespace Placement

/-- The report: column, row and heading token, with commas between. -/
def report (p : Placement) : String :=
  Text.decimal p.cell.x ++ "," ++ Text.decimal p.cell.y ++ "," ++ p.heading.token

/-- The description in log messages, with the fields named. -/
def describe (p : Placement) : String :=
  "Placement \x7b x: " ++ Text.decimal p.cell.x ++ ", y: " ++ Text.decimal p.cell.y
    ++ ", heading: " ++ p.heading.name ++ " \x7d"

end Placement

end Gridbot
