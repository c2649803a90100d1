import Gridbot.Robot

/-!
# Where a robot stands

`RobotState.next` checks the cell that a command leads to and nothing else. What it can do is said
once, in `next_cases`: an accepted command puts the robot on an open cell, turns it, or leaves it.

* `stands_apply`, `stands_run`: a robot that stands on an open cell, or nowhere, goes on doing so.
* `apply_eq_unplaced_iff`: a robot is placed by an accepted `place` and by nothing else, and
  nothing takes it off the grid again.
-/

namespace Gridbot

/-! ## Turns -/

/-- The heading that a turn leads to. -/
def Command.turn? : Command → Heading → Option Heading
  | .left, h => some h.left
  | .right, h => some h.right
  | .flip, h => some h.flip
  | _, _ => none

/-! ## Entering a cell -/

theorem Grid.enter_eq_ok_iff {g : Grid} {p : Placement} {t : Transition} :
    g.enter p = .ok t ↔ g.isOpen p.cell ∧ t = ⟨.placed p, none⟩ := by
  unfold Grid.enter Grid.isOpen
  cases g.contains p.cell <;> cases g.hasObstacle p.cell <;> simp [eq_comm]

namespace RobotState

/-! ## What a command leads to -/

/-- **Accepted commands.** Everything an accepted command can be, with the guard it passed and the
transition it makes. -/
theorem next_cases {g : Grid} {s : RobotState} {c : Command} {t : Transition}
    (h : s.next g c = .ok t) :
    (∃ p, c = .place p ∧ g.isOpen p.cell ∧ t = ⟨.placed p, none⟩) ∨
    (∃ p d, s = .placed p ∧ c = .move ∧ p.cell.ahead p.heading = some d ∧ g.isOpen d ∧
      t = ⟨.placed { p with cell := d }, none⟩) ∨
    (∃ p k, s = .placed p ∧ c.turn? p.heading = some k ∧
      t = ⟨.placed { p with heading := k }, none⟩) ∨
    (∃ p, s = .placed p ∧ c = .report ∧ t = ⟨.placed p, some p⟩) := by
  cases c with
  | place p =>
    obtain ⟨ho, rfl⟩ := Grid.enter_eq_ok_iff.1 h
    exact Or.inl ⟨p, rfl, ho, rfl⟩
  | move =>
    cases s with
    | unplaced => cases h
    | placed p =>
      simp only [next] at h
      cases hd : p.cell.ahead p.heading with
      | none => rw [hd] at h; cases h
      | some d =>
        rw [hd] at h
        obtain ⟨ho, rfl⟩ := Grid.enter_eq_ok_iff.1 h
        exact Or.inr (Or.inl ⟨p, d, rfl, rfl, hd, ho, rfl⟩)
  | report =>
    cases s with
    | unplaced => cases h
    | placed p => cases h; exact Or.inr (Or.inr (Or.inr ⟨p, rfl, rfl, rfl⟩))
  | _ =>
    cases s with
    | unplaced => cases h
    | placed p => cases h; exact Or.inr (Or.inr (Or.inl ⟨p, _, rfl, rfl, rfl⟩))

theorem next_place (g : Grid) (s : RobotState) (p : Placement) :
    s.next g (.place p) = g.enter p := by
  cases s <;> rfl

theorem next_move_of_ahead {g : Grid} {p : Placement} {d : Cell}
    (h : p.cell.ahead p.heading = some d) :
    (placed p).next g .move = g.enter { p with cell := d } := by
  simp only [next, h]

theorem next_move_of_eq_none {g : Grid} {p : Placement} (h : p.cell.ahead p.heading = none) :
    (placed p).next g .move = .error (.offCoordinates p) := by
  simp only [next, h]

theorem apply_of_ok {g : Grid} {s t : RobotState} {c : Command} (h : s.next g c = .ok ⟨t, none⟩) :
    s.apply g c = (.applied, t) := by
  rw [apply, h]

theorem apply_of_error {g : Grid} {s : RobotState} {c : Command} {r : Rejection}
    (h : s.next g c = .error r) : s.apply g c = (.rejected r, s) := by
  rw [apply, h]

/-- The state after a command, accepted or not. -/
theorem apply_snd (g : Grid) (s : RobotState) (c : Command) :
    (s.apply g c).2 = match s.next g c with
      | .ok t => t.state
      | .error _ => s := by
  unfold apply
  split <;> rename_i h <;> rw [h]

/-! ## Invariant -/

/-- The robot is on an open cell of the grid, or nowhere. -/
def Stands (g : Grid) (s : RobotState) : Prop := ∀ p, s = .placed p → g.isOpen p.cell

theorem stands_unplaced (g : Grid) : Stands g unplaced := fun _ h => by cases h

theorem stands_placed {g : Grid} {p : Placement} : Stands g (placed p) ↔ g.isOpen p.cell :=
  ⟨fun h => h p rfl, fun h _ hq => by cases hq; exact h⟩

theorem stands_next {g : Grid} {s : RobotState} {c : Command} {t : Transition} (hs : Stands g s)
    (h : s.next g c = .ok t) : Stands g t.state := by
  rcases next_cases h with ⟨p, -, ho, rfl⟩ | ⟨p, d, -, -, -, ho, rfl⟩ | ⟨p, k, rfl, -, rfl⟩ |
    ⟨p, rfl, -, rfl⟩
  · exact stands_placed.2 ho
  · exact stands_placed.2 ho
  · exact stands_placed.2 (hs p rfl)
  · exact hs

theorem stands_apply {g : Grid} {s : RobotState} (hs : Stands g s) (c : Command) :
    Stands g (s.apply g c).2 := by
  rw [apply_snd]
  split
  · rename_i h; exact stands_next hs h
  · exact hs

/-- **The invariant of a run.** Every state a run passes through stands. -/
theorem stands_run {g : Grid} {s : RobotState} (hs : Stands g s) (cs : List Command) :
    ∀ e ∈ s.run g cs, Stands g e.2 := by
  induction cs generalizing s with
  | nil => simp [run]
  | cons c cs ih =>
    intro e he
    have hc := stands_apply hs c
    rcases List.mem_cons.1 he with rfl | he
    · exact hc
    · exact ih hc e he

/-! ## Placement -/

theorem next_state_ne_unplaced {g : Grid} {s : RobotState} {c : Command} {t : Transition}
    (h : s.next g c = .ok t) : t.state ≠ .unplaced := by
  rcases next_cases h with ⟨p, -, -, rfl⟩ | ⟨p, d, -, -, -, -, rfl⟩ | ⟨p, k, -, -, rfl⟩ |
    ⟨p, -, -, rfl⟩ <;> simp

/-- A command leaves the robot off the grid exactly if it was off the grid and the command is no
`place` on an open cell. -/
theorem apply_eq_unplaced_iff {g : Grid} {s : RobotState} {c : Command} :
    (s.apply g c).2 = .unplaced ↔ s = .unplaced ∧ ∀ p, c = .place p → ¬g.isOpen p.cell := by
  rw [apply_snd]
  split
  · rename_i t h
    refine ⟨fun ht => absurd ht (next_state_ne_unplaced h), ?_⟩
    rintro ⟨rfl, hc⟩
    rcases next_cases h with ⟨p, rfl, ho, -⟩ | ⟨p, d, hp, -⟩ | ⟨p, k, hp, -⟩ | ⟨p, hp, -⟩
    · exact absurd ho (hc p rfl)
    all_goals cases hp
  · rename_i r h
    refine ⟨fun hs => ⟨hs, ?_⟩, And.left⟩
    rintro p rfl ho
    rw [next_place, Grid.enter_eq_ok_iff.2 ⟨ho, rfl⟩] at h
    cases h

end RobotState

end Gridbot
