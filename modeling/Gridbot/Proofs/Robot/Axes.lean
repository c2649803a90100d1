import Gridbot.Proofs.Robot.Reflection

/-!
# Columns and rows

The two axes are treated alike. Reflected in the diagonal, columns become rows, north becomes east
and south becomes west; and a new robot on the reflected grid that gets the reflected commands does
at every step exactly what is the reflection of what the robot does, down to the coordinates that
refusals name.

This is so because the robot stands on the grid. A step north or east that leaves the coordinates is
named by a missing row in either case, which would be no reflection; but from a cell of a grid there
is no such step.

* `carries_transpose`: the diagonal carries every grid to its transpose.
* `run_transpose`: the runs of a new robot.
-/

namespace Gridbot

/-! ## What is reflected in the diagonal -/

def Cell.transpose (c : Cell) : Cell := ⟨c.y, c.x⟩

def Heading.transpose : Heading → Heading
  | .north => .east
  | .east => .north
  | .south => .west
  | .west => .south

/-- Reflection in the diagonal on which the column is the row. -/
def Reflection.diagonal : Reflection := ⟨Cell.transpose, Heading.transpose⟩

def Grid.transpose (g : Grid) : Grid :=
  { g.moveObstacles Cell.transpose with
    length := g.width
    width := g.length
    length_ne_zero := g.width_ne_zero
    width_ne_zero := g.length_ne_zero }

def Rejection.transpose : Rejection → Rejection
  | notPlaced => notPlaced
  | outOfBounds x y => outOfBounds y x
  | obstacle c => obstacle c.transpose

def Outcome.transpose : Outcome → Outcome
  | applied => applied
  | reported p => reported (Reflection.diagonal.placement p)
  | rejected r => rejected r.transpose

/-! ## Cells -/

theorem Cell.transpose_transpose (c : Cell) : c.transpose.transpose = c := rfl

theorem Cell.ahead_transpose (c : Cell) (h : Heading) :
    c.transpose.ahead h.transpose = (c.ahead h).map transpose := by
  cases h <;> simp only [ahead, apply_ite (Option.map transpose)] <;> rfl

theorem Grid.contains_transpose (g : Grid) (c : Cell) :
    g.transpose.contains c.transpose = g.contains c := Bool.and_comm _ _

theorem Grid.hasObstacle_transpose (g : Grid) (c : Cell) :
    g.transpose.hasObstacle c.transpose = g.hasObstacle c := by
  have hinjective : Function.Injective Cell.transpose :=
    Function.LeftInverse.injective Cell.transpose_transpose
  exact hasObstacle_moveObstacles hinjective g c

namespace Reflection

/-! ## Runs -/

theorem carries_transpose (g : Grid) :
    diagonal.Carries (fun a b => b = a.swap) g g.transpose where
  turn c h := by cases c <;> cases h <;> rfl
  contains := g.contains_transpose
  hasObstacle := g.hasObstacle_transpose
  off c _ := rfl
  move p hp := by
    have hahead := p.cell.ahead_transpose p.heading
    cases hd : p.cell.ahead p.heading with
    | some d =>
      rw [hd] at hahead
      exact Or.inl ⟨d, rfl, hahead⟩
    | none =>
      rw [hd] at hahead
      have hstep := RobotState.next_move_of_eq_none (g := g) hd
      have himage := RobotState.next_move_of_eq_none (g := g.transpose)
        (p := diagonal.placement p) hahead
      obtain ⟨c, k⟩ := p
      cases k with
      | north => exact absurd hd (Ideal.ahead_ne_none hp (Or.inl rfl))
      | east => exact absurd hd (Ideal.ahead_ne_none hp (Or.inr rfl))
      | south => exact Or.inr ⟨(some c.x, none), (none, some c.x), rfl, hstep, himage⟩
      | west => exact Or.inr ⟨(none, some c.y), (some c.y, none), rfl, hstep, himage⟩

theorem eq_transpose_of_image {o i : Outcome} (h : diagonal.Image (fun a b => b = a.swap) o i) :
    i = o.transpose := by
  cases h with
  | outOfBounds h =>
    subst h
    rfl
  | _ => rfl

/-- **The axes are treated alike.** On the transposed grid, a new robot that gets the reflected
commands has at every step the reflected outcome, with all its coordinates, and the reflected
state. -/
theorem run_transpose (g : Grid) (cs : List Command) :
    RobotState.unplaced.run g.transpose (cs.map diagonal.command) =
      (RobotState.unplaced.run g cs).map fun e => (e.1.transpose, diagonal.state e.2) := by
  have hrun := (carries_transpose g).run_image (RobotState.stands_unplaced g) cs
  have hsteps : List.Forall₂ (fun e i => (e.1.transpose, diagonal.state e.2) = i)
      (RobotState.unplaced.run g cs)
      (RobotState.unplaced.run g.transpose (cs.map diagonal.command)) :=
    hrun.imp fun e i h => Prod.ext (eq_transpose_of_image h.1).symm h.2.symm
  rw [← List.forall₂_map_left_iff, List.forall₂_eq_eq_eq] at hsteps
  exact hsteps.symm

/-- A robot at the southern edge, and its reflection at the western one. -/
example :
    let g : Grid := ⟨3, 2, [⟨2, 0⟩], by decide, by decide, by decide⟩
    let cs : List Command := [.place ⟨⟨1, 0⟩, .south⟩, .move, .left, .move]
    RobotState.unplaced.run g.transpose (cs.map diagonal.command) =
      [(.applied, .placed ⟨⟨0, 1⟩, .west⟩),
        (.rejected (.outOfBounds none (some 1)), .placed ⟨⟨0, 1⟩, .west⟩),
        (.applied, .placed ⟨⟨0, 1⟩, .north⟩),
        (.rejected (.obstacle ⟨0, 2⟩), .placed ⟨⟨0, 1⟩, .north⟩)] := by
  decide

end Reflection

end Gridbot
