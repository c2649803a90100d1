import Gridbot.Proofs.Robot.Standing

/-!
# The ideal robot

The robot's rules on unbounded integers. A move adds the unit vector of the heading; a target is
accepted if it lies inside the grid and is not blocked; a refusal names its target in signed
decimals. There is no number that a step cannot reach.

`RobotState.apply` works with 32-bit coordinates instead. It has a case of its own for a step that
leaves them, and that case names the wrong target after a step north or east.

* `apply_ideal`: on a robot that stands, both machines take the same step. The case is never wrong
  there, as a cell of a grid is below a 32-bit dimension and so below the largest coordinate.
* `run_ideal`: so do whole runs of a new robot, with the same refusals word for word.
-/

namespace Gridbot

namespace Ideal

/-- A cell and a heading. The coordinates are any integers. -/
structure Pose where
  x : Int
  y : Int
  heading : Heading
  deriving DecidableEq, Repr

inductive Refusal
  | notPlaced
  | outside (x y : Int)
  | blocked (x y : Int)
  deriving DecidableEq, Repr

inductive Outcome
  | applied
  | reported (p : Pose)
  | rejected (r : Refusal)
  deriving DecidableEq, Repr

/-- The text of a refusal; `toString` writes an integer in signed decimals. -/
def Refusal.text : Refusal → String
  | notPlaced => "robot is not placed on the grid"
  | outside x y => toString x ++ "," ++ toString y ++ " is outside the grid"
  | blocked x y => toString x ++ "," ++ toString y ++ " is blocked by an obstacle"

/-- The text of a rejected command. -/
def Outcome.message? : Outcome → Option String
  | rejected r => some r.text
  | _ => none

/-- One cell in a direction. -/
def unit : Heading → Int × Int
  | .north => (0, 1)
  | .south => (0, -1)
  | .east => (1, 0)
  | .west => (-1, 0)

def Pose.ahead (p : Pose) : Pose :=
  { p with x := p.x + (unit p.heading).1, y := p.y + (unit p.heading).2 }

def Inside (g : Grid) (p : Pose) : Prop :=
  0 ≤ p.x ∧ p.x < g.length.toNat ∧ 0 ≤ p.y ∧ p.y < g.width.toNat

def Blocked (g : Grid) (p : Pose) : Prop :=
  ∃ c ∈ g.obstacles, (c.x.toNat : Int) = p.x ∧ (c.y.toNat : Int) = p.y

instance (g : Grid) (p : Pose) : Decidable (Inside g p) :=
  inferInstanceAs (Decidable (_ ∧ _ ∧ _ ∧ _))

instance (g : Grid) (p : Pose) : Decidable (Blocked g p) :=
  inferInstanceAs (Decidable (∃ c ∈ g.obstacles, _))

/-- A robot in state `s` tries to enter `p`. -/
def enter (g : Grid) (s : Option Pose) (p : Pose) : Outcome × Option Pose :=
  if ¬Inside g p then (.rejected (.outside p.x p.y), s)
  else if Blocked g p then (.rejected (.blocked p.x p.y), s)
  else (.applied, some p)

/-- The pose of a placement. -/
def Pose.ofPlacement (p : Placement) : Pose := ⟨p.cell.x.toNat, p.cell.y.toNat, p.heading⟩

/-- What a command does; `none` is a robot that was never placed. -/
def step (g : Grid) : Option Pose → Command → Outcome × Option Pose
  | s, .place p => enter g s (.ofPlacement p)
  | none, _ => (.rejected .notPlaced, none)
  | some p, .move => enter g (some p) p.ahead
  | some p, .left => (.applied, some { p with heading := p.heading.left })
  | some p, .right => (.applied, some { p with heading := p.heading.right })
  | some p, .flip => (.applied, some { p with heading := p.heading.flip })
  | some p, .report => (.reported p, some p)

/-- The outcome of each command of a list and the state after it. -/
def run (g : Grid) (s : Option Pose) : List Command → List (Outcome × Option Pose)
  | [] => []
  | c :: cs => step g s c :: run g (step g s c).2 cs

end Ideal

/-! ## The view of a robot as an ideal one -/

open Gridbot.Ideal

/-- A coordinate as it is shown; one that does not exist is `-1`. -/
def Rejection.shown : Option UInt32 → Int
  | none => -1
  | some n => n.toNat

def Rejection.ideal : Rejection → Refusal
  | notPlaced => .notPlaced
  | outOfBounds x y => .outside (shown x) (shown y)
  | obstacle c => .blocked c.x.toNat c.y.toNat

def Outcome.ideal : Outcome → Ideal.Outcome
  | applied => .applied
  | reported p => .reported (.ofPlacement p)
  | rejected r => .rejected r.ideal

/-- The text of a rejected command. -/
def Outcome.message? : Outcome → Option String
  | rejected r => some r.message
  | _ => none

def RobotState.ideal : RobotState → Option Pose
  | unplaced => none
  | placed p => some (.ofPlacement p)

/-- An outcome with the state after it, both as the ideal robot has them. -/
def idealStep (e : Outcome × RobotState) : Ideal.Outcome × Option Pose := (e.1.ideal, e.2.ideal)

theorem Rejection.message_eq (r : Rejection) : r.message = r.ideal.text := by
  cases r with
  | notPlaced => rfl
  | outOfBounds x y => cases x <;> cases y <;> rfl
  | obstacle c => rfl

theorem Outcome.message?_eq (o : Outcome) : o.message? = o.ideal.message? := by
  cases o with
  | rejected r => exact congrArg some r.message_eq
  | _ => rfl

namespace Ideal

/-! ## Cells of a grid -/

theorem inside_ofPlacement {g : Grid} {p : Placement} :
    Inside g (.ofPlacement p) ↔ g.contains p.cell := by
  rw [Grid.contains_iff]
  unfold Inside Pose.ofPlacement
  dsimp only
  omega

theorem blocked_ofPlacement {g : Grid} {p : Placement} :
    Blocked g (.ofPlacement p) ↔ g.hasObstacle p.cell := by
  rw [Grid.hasObstacle_iff]
  constructor
  · rintro ⟨c, hc, hx, hy⟩
    have : c = p.cell := Cell.ext_iff_toNat.2 ⟨Int.ofNat.inj hx, Int.ofNat.inj hy⟩
    exact this ▸ hc
  · exact fun h => ⟨p.cell, h, rfl, rfl⟩

/-- A cell of a grid is below the largest coordinate on both axes. -/
theorem succ_lt_of_contains {g : Grid} {c : Cell} (h : g.contains c) :
    c.x.toNat + 1 < UInt32.size ∧ c.y.toNat + 1 < UInt32.size := by
  have hc := Grid.contains_iff.1 h
  have := g.length.toNat_lt
  have := g.width.toNat_lt
  simp only [UInt32.size]
  omega

/-- From a cell of a grid, only a step south or west can leave the coordinates. -/
theorem ahead_ne_none {g : Grid} {c : Cell} (h : g.contains c) {k : Heading}
    (hk : k = .north ∨ k = .east) : c.ahead k ≠ none := by
  have hc := succ_lt_of_contains h
  rcases hk with rfl | rfl
  · simp [Cell.ahead, hc.2]
  · simp [Cell.ahead, hc.1]

/-! ## One step -/

/-- The next cell in a direction is the one a unit vector away, whenever there is such a cell. -/
theorem ahead_eq_some_iff {c d : Cell} {k : Heading} :
    c.ahead k = some d ↔
      (d.x.toNat : Int) = c.x.toNat + (unit k).1 ∧ (d.y.toNat : Int) = c.y.toNat + (unit k).2 := by
  have hcx := c.x.toNat_lt
  have hcy := c.y.toNat_lt
  have hdx := d.x.toNat_lt
  have hdy := d.y.toNat_lt
  cases k <;>
    simp only [Cell.ahead, Option.ite_none_right_eq_some, Option.some.injEq, Cell.ext_iff_toNat, unit,
      UInt32.toNat_add, UInt32.toNat_sub, UInt32.toNat_one, UInt32.size] <;>
    omega

theorem ofPlacement_ahead {p : Placement} {d : Cell} (h : p.cell.ahead p.heading = some d) :
    Pose.ofPlacement { p with cell := d } = (Pose.ofPlacement p).ahead := by
  obtain ⟨hx, hy⟩ := ahead_eq_some_iff.1 h
  simp only [Pose.ofPlacement, Pose.ahead, hx, hy]

/-- A step off the coordinates leads outside the grid, and the refusal names its target. -/
theorem ahead_of_eq_none {g : Grid} {p : Placement} (hc : g.contains p.cell)
    (h : p.cell.ahead p.heading = none) :
    ¬Inside g (Pose.ofPlacement p).ahead ∧
      (Rejection.offCoordinates p).ideal =
        .outside (Pose.ofPlacement p).ahead.x (Pose.ofPlacement p).ahead.y := by
  obtain ⟨c, k⟩ := p
  dsimp only at hc h
  cases k with
  | north => exact absurd h (ahead_ne_none hc (Or.inl rfl))
  | east => exact absurd h (ahead_ne_none hc (Or.inr rfl))
  | south =>
    have hy : c.y.toNat = 0 := by simpa [Cell.ahead] using h
    simp [Inside, Pose.ofPlacement, Pose.ahead, unit, Rejection.offCoordinates, Rejection.ideal,
      Rejection.shown, hy]
  | west =>
    have hx : c.x.toNat = 0 := by simpa [Cell.ahead] using h
    simp [Inside, Pose.ofPlacement, Pose.ahead, unit, Rejection.offCoordinates, Rejection.ideal,
      Rejection.shown, hx]

/-- Trying to enter a cell comes to the same on both machines. -/
theorem enter_ofPlacement (g : Grid) (s : RobotState) (p : Placement) :
    enter g s.ideal (.ofPlacement p) =
      match g.enter p with
      | .ok t => (.applied, t.state.ideal)
      | .error r => (.rejected r.ideal, s.ideal) := by
  unfold enter Grid.enter
  simp only [inside_ofPlacement, blocked_ofPlacement]
  cases g.contains p.cell with
  | false => rfl
  | true => cases g.hasObstacle p.cell <;> rfl

/-- A command that leads to a cell does on both machines what trying to enter the cell does. -/
theorem apply_of_next_eq_enter {g : Grid} {s : RobotState} {c : Command} {p : Placement}
    (h : s.next g c = g.enter p) : idealStep (s.apply g c) = enter g s.ideal (.ofPlacement p) := by
  rw [enter_ofPlacement]
  cases he : g.enter p with
  | error r => rw [RobotState.apply_of_error (h.trans he)]; rfl
  | ok t =>
    obtain ⟨-, rfl⟩ := Grid.enter_eq_ok_iff.1 he
    rw [RobotState.apply_of_ok (h.trans he)]; rfl

theorem apply_move {g : Grid} {p : Placement} (hc : g.contains p.cell) :
    idealStep ((RobotState.placed p).apply g .move) =
      enter g (RobotState.placed p).ideal (Pose.ofPlacement p).ahead := by
  cases hd : p.cell.ahead p.heading with
  | none =>
    obtain ⟨hi, ht⟩ := ahead_of_eq_none hc hd
    rw [RobotState.apply_of_error (RobotState.next_move_of_eq_none hd), enter, if_pos hi, ← ht]
    rfl
  | some d =>
    rw [← ofPlacement_ahead hd]
    exact apply_of_next_eq_enter (RobotState.next_move_of_ahead hd)

/-- **One step.** On a robot that stands, a command does what it does to the ideal robot. -/
theorem apply_ideal {g : Grid} {s : RobotState} (hs : s.Stands g) (c : Command) :
    idealStep (s.apply g c) = step g s.ideal c := by
  cases c with
  | place p =>
    rw [apply_of_next_eq_enter (RobotState.next_place g s p)]
    cases s <;> rfl
  | move =>
    cases s with
    | unplaced => rfl
    | placed p => exact apply_move (Grid.isOpen_iff.1 (hs p rfl)).1
  | _ => cases s <;> rfl

/-! ## Whole runs -/

theorem run_ideal {g : Grid} {s : RobotState} (hs : s.Stands g) (cs : List Command) :
    (s.run g cs).map idealStep = run g s.ideal cs := by
  induction cs generalizing s with
  | nil => rfl
  | cons c cs ih =>
    have hc := apply_ideal hs c
    rw [RobotState.run, run, List.map_cons, ih (RobotState.stands_apply hs c), ← hc]
    rfl

theorem run_messages {g : Grid} {s : RobotState} (hs : s.Stands g) (cs : List Command) :
    (s.run g cs).map (fun e => e.1.message?) =
      (run g s.ideal cs).map (fun e => e.1.message?) := by
  rw [← run_ideal hs, List.map_map]
  exact List.map_congr_left fun e _ => e.1.message?_eq

/-- **A new robot is an ideal robot.** Its run has the outcomes, the states and the texts of the
ideal run, and it never faces north or east from a cell that has no neighbour there. -/
theorem run_new_robot_ideal (g : Grid) (cs : List Command) :
    (RobotState.unplaced.run g cs).map idealStep = run g none cs ∧
    (RobotState.unplaced.run g cs).map (fun e => e.1.message?) =
      (run g none cs).map (fun e => e.1.message?) ∧
    ∀ e ∈ RobotState.unplaced.run g cs, ∀ p, e.2 = .placed p →
      p.heading = .north ∨ p.heading = .east → p.cell.ahead p.heading ≠ none := by
  have h0 := RobotState.stands_unplaced g
  refine ⟨run_ideal h0 cs, run_messages h0 cs, ?_⟩
  intro e he p hp hk
  have ho := RobotState.stands_run h0 cs e he p hp
  exact ahead_ne_none (Grid.isOpen_iff.1 ho).1 hk

end Ideal

end Gridbot
