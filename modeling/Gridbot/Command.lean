import Gridbot.Placement

/-!
# Commands

The six things a robot can be told, and the text of each as an instruction.
-/

namespace Gridbot

/-- An instruction to the robot. -/
inductive Command
  /-- Stand on the cell and face the heading of a placement. -/
  | place (p : Placement)
  /-- Go one cell ahead. -/
  | move
  /-- Turn a quarter counter-clockwise. -/
  | left
  /-- Turn a quarter clockwise. -/
  | right
  /-- Turn a half. -/
  | flip
  /-- Say where the robot is. -/
  | report
  deriving DecidableEq, Repr

namespace Command

/-- The instruction text of a command. -/
def text : Command → String
  | place p => "PLACE " ++ p.report
  | move => "MOVE"
  | left => "LEFT"
  | right => "RIGHT"
  | flip => "FLIP"
  | report => "REPORT"

/-- The commands that are a single word. -/
def ofToken? : String → Option Command
  | "MOVE" => some move
  | "LEFT" => some left
  | "RIGHT" => some right
  | "FLIP" => some flip
  | "REPORT" => some report
  | _ => none

/-- A token stands for a command without arguments, and is its text. -/
theorem ofToken?_eq_some_iff {line : String} {c : Command} :
    ofToken? line = some c ↔ (∀ p, c ≠ place p) ∧ line = c.text := by
  constructor
  · intro h
    unfold ofToken? at h
    split at h <;> cases h <;> exact ⟨by simp, rfl⟩
  · rintro ⟨hc, rfl⟩
    cases c with
    | place p => exact absurd rfl (hc p)
    | _ => rfl

end Command

end Gridbot
