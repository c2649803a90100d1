import Gridbot.Proofs.Session.Steps

/-!
# When a session's robot is placed

A line opens a grid if, trimmed, it reads as a `place` on a cell that is inside and free. A robot
is off the grid as long as no line has opened it; from the first that does it stands on an open
cell, whatever lines follow and whatever the sink does.

* `after_eq_unplaced_iff`, `stands_after`: this of the course of a text.
* `placed_iff_opened`: and of the steps of a session, however it gets its lines.
-/

namespace Gridbot

/-- The line places the robot: it reads as a `place` on a cell that is inside and free. -/
def Opens (g : Grid) (line : String) : Prop :=
  ∃ p, Command.parse (Text.trim line) = .ok (.place p) ∧ g.contains p.cell ∧ ¬g.hasObstacle p.cell

/-- At every moment of these steps the robot is off the grid exactly if no line has opened it so
far; if it is placed its cell is open; and it stays placed. -/
def PlacedByLines (g : Grid) (steps : List Step) : Prop :=
  ∀ done rest, steps = done ++ rest →
    (robotAfter .unplaced done = .unplaced ↔ ∀ e ∈ done, ¬Opens g e.line) ∧
    (∀ p, robotAfter .unplaced done = .placed p → g.isOpen p.cell) ∧
    (robotAfter .unplaced done ≠ .unplaced → ∀ e ∈ rest, e.session.robot ≠ .unplaced)

namespace RobotState

/-! ## One line -/

theorem stands_obey {g : Grid} {s : RobotState} (hs : s.Stands g) (line : String) :
    (s.obey g line).1.Stands g := by
  cases h : Command.parse (Text.trim line) with
  | error e => rw [obey_of_parse_error h]; exact hs
  | ok c => rw [obey_of_parse h]; exact stands_apply hs c

theorem obey_eq_unplaced_iff {g : Grid} {s : RobotState} {line : String} :
    (s.obey g line).1 = .unplaced ↔ s = .unplaced ∧ ¬Opens g line := by
  unfold Opens
  cases h : Command.parse (Text.trim line) with
  | error e => simp [obey_of_parse_error h]
  | ok c =>
    rw [obey_of_parse h, apply_eq_unplaced_iff]
    simp only [Except.ok.injEq, ← Grid.isOpen_iff, not_exists, not_and]

/-! ## Many lines -/

theorem stands_after {g : Grid} {s : RobotState} (hs : s.Stands g) (lines : List String) :
    (s.after g lines).Stands g := by
  induction lines generalizing s with
  | nil => exact hs
  | cons line rest ih => exact ih (stands_obey hs line)

theorem after_eq_unplaced_iff {g : Grid} {s : RobotState} {lines : List String} :
    s.after g lines = .unplaced ↔ s = .unplaced ∧ ∀ line ∈ lines, ¬Opens g line := by
  induction lines generalizing s with
  | nil => simp [after]
  | cons line rest ih =>
    rw [after, ih, obey_eq_unplaced_iff, List.forall_mem_cons, and_assoc]

end RobotState

/-! ## Steps -/

theorem Follows.ne_unplaced {g : Grid} {s : RobotState} {steps : List Step} (h : Follows g s steps)
    (hs : s ≠ .unplaced) : ∀ e ∈ steps, e.session.robot ≠ .unplaced := by
  induction steps generalizing s with
  | nil => simp
  | cons e rest ih =>
    obtain ⟨he, h⟩ := h
    have hne : e.session.robot ≠ .unplaced := by
      rw [he]
      exact fun hu => hs (RobotState.obey_eq_unplaced_iff.1 hu).1
    exact List.forall_mem_cons.2 ⟨hne, ih h hne⟩

/-- Steps that follow the course of their lines place the robot as these lines say. -/
theorem Follows.placedByLines {g : Grid} {steps : List Step} (h : Follows g .unplaced steps) :
    PlacedByLines g steps := by
  rintro done rest rfl
  obtain ⟨hr, hf⟩ := h.robotAfter_eq
  refine ⟨?_, ?_, hf.ne_unplaced⟩
  · rw [hr, RobotState.after_eq_unplaced_iff]
    simp
  · rw [hr]
    exact RobotState.stands_after (RobotState.stands_unplaced g) _

/-- **Placed robots.** In a new session, whether the lines come one by one, as a batch or in a
dialogue, the robot is at every moment off the grid or on an open cell, and on it exactly from the
first line on that places it. -/
theorem placed_iff_opened (g : Grid) (sink : Sink) (lines : List String)
    (arrivals : List Arrival) :
    PlacedByLines g ((Session.start g sink).singleSteps lines) ∧
    (PlacedByLines g ((Session.start g sink).batchSteps lines) ∧
      ((Session.start g sink).runLines lines).1.robot =
        robotAfter .unplaced ((Session.start g sink).batchSteps lines)) ∧
    (PlacedByLines g ((Session.start g sink).dialogueSteps arrivals) ∧
      ((Session.start g sink).converse arrivals).1.robot =
        robotAfter .unplaced ((Session.start g sink).dialogueSteps arrivals)) := by
  refine ⟨?_, ⟨?_, Session.runLines_robot _ lines⟩, ?_, Session.converse_robot _ arrivals⟩
  · exact Follows.placedByLines (Session.follows_singleSteps (Session.start g sink) lines)
  · exact Follows.placedByLines (Session.follows_batchSteps (Session.start g sink) lines)
  · exact Follows.placedByLines (Session.follows_dialogueSteps (Session.start g sink) arrivals)

end Gridbot
