import Gridbot.Command
import Gridbot.Grid

/-!
# The robot

A robot is off the grid until a placement is accepted, and on it from then on. `next` computes
what a command leads to, or why it is refused; `apply` adopts what is accepted and keeps the state
otherwise.

* Only the cell that a command leads to is checked, so `next` is meaningful in every state.
* A step that would leave the coordinates altogether is refused like one that leaves the grid, with
  `none`, shown as `-1`, for the column if it went west and for the row otherwise.
-/

namespace Gridbot

/-- Whether the robot is on the grid, and how it is placed. -/
inductive RobotState
  | unplaced
  | placed (p : Placement)
  deriving DecidableEq, Repr

/-- Why a command has no effect. -/
inductive Rejection
  /-- The robot is not on the grid yet. -/
  | notPlaced
  /-- The target is off the grid. A coordinate that does not exist is `none`. -/
  | outOfBounds (x y : Option UInt32)
  /-- The target is blocked. -/
  | obstacle (c : Cell)
  deriving DecidableEq, Repr

namespace Rejection

/-- A coordinate of a target; one that does not exist is shown as `-1`. -/
def coordinate : Option UInt32 → String
  | none => "-1"
  | some n => Text.decimal n

/-- The text of a rejection. -/
def message : Rejection → String
  | notPlaced => "robot is not placed on the grid"
  | outOfBounds x y => coordinate x ++ "," ++ coordinate y ++ " is outside the grid"
  | obstacle c => Text.decimal c.x ++ "," ++ Text.decimal c.y ++ " is blocked by an obstacle"

/-- Refuses the step that leaves the coordinates: westwards it is the column that is missing, in
every other direction the row. -/
def offCoordinates (p : Placement) : Rejection :=
  match p.heading with
  | .west => outOfBounds none (some p.cell.y)
  | _ => outOfBounds (some p.cell.x) none

end Rejection

/-- What an accepted command leads to: the state to adopt and the placement to report, if any. -/
structure Transition where
  state : RobotState
  report : Option Placement
  deriving DecidableEq, Repr

/-- What a command did. -/
inductive Outcome
  | applied
  | reported (p : Placement)
  | rejected (r : Rejection)
  deriving DecidableEq, Repr

/-- Puts a robot on a cell of the grid if that cell is open. -/
def Grid.enter (g : Grid) (p : Placement) : Except Rejection Transition :=
  if !g.contains p.cell then .error (.outOfBounds (some p.cell.x) (some p.cell.y))
  else if g.hasObstacle p.cell then .error (.obstacle p.cell)
  else .ok ⟨.placed p, none⟩

namespace RobotState

/-- What a command leads to on a grid. -/
def next (g : Grid) : RobotState → Command → Except Rejection Transition
  | _, .place p => g.enter p
  | unplaced, _ => .error .notPlaced
  | placed p, .move =>
    match p.cell.ahead p.heading with
    | none => .error (.offCoordinates p)
    | some c => g.enter { p with cell := c }
  | placed p, .left => .ok ⟨placed { p with heading := p.heading.left }, none⟩
  | placed p, .right => .ok ⟨placed { p with heading := p.heading.right }, none⟩
  | placed p, .flip => .ok ⟨placed { p with heading := p.heading.flip }, none⟩
  | placed p, .report => .ok ⟨placed p, some p⟩

/-- Carries a command out. A command that is refused leaves the state as it is. -/
def apply (g : Grid) (s : RobotState) (c : Command) : Outcome × RobotState :=
  match s.next g c with
  | .ok ⟨t, some p⟩ => (.reported p, t)
  | .ok ⟨t, none⟩ => (.applied, t)
  | .error r => (.rejected r, s)

/-- The outcome of each command of a list and the state after it. -/
def run (g : Grid) (s : RobotState) : List Command → List (Outcome × RobotState)
  | [] => []
  | c :: cs => s.apply g c :: run g (s.apply g c).2 cs

/-- The description in log messages. -/
def describe : RobotState → String
  | unplaced => "Unplaced"
  | placed p => "Placed(" ++ p.describe ++ ")"

end RobotState

end Gridbot
