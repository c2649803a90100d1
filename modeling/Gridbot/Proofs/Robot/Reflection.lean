import Gridbot.Proofs.Robot.Ideal
import Mathlib.Data.List.Forall2

/-!
# Reflections

A reflection gives cells and headings new names, by which left and right change places. It turns
placements, commands and robots into reflected ones. If it carries one grid to another, in that the
cells inside and the obstacles are carried to such cells and steps to steps, then a reflected robot
obeys reflected commands as the robot obeys the commands.

How refusals name a target off the grid is left open: a relation `Off` between such names is a
parameter, as a step off the coordinates has a name of its own that not every reflection carries to
another.

* `Carries`: the conditions on a reflection, about single cells and steps.
* `Carries.apply_image`: one command to a robot that stands.
* `Carries.run_image`: a run of such a robot.
-/

namespace Gridbot

/-- New names for cells and headings. -/
structure Reflection where
  cell : Cell → Cell
  heading : Heading → Heading

/-- A grid with its obstacles moved. -/
def Grid.moveObstacles (g : Grid) (f : Cell → Cell) : Grid :=
  { g with
    obstacles := sortCells (g.obstacles.map f)
    obstacles_pairwise := pairwise_sortCells _ }

theorem Grid.hasObstacle_moveObstacles {f : Cell → Cell} (hf : Function.Injective f) (g : Grid)
    (c : Cell) : (g.moveObstacles f).hasObstacle (f c) = g.hasObstacle c := by
  rw [Bool.eq_iff_iff, hasObstacle_iff, hasObstacle_iff]
  exact mem_sortCells.trans (List.mem_map_of_injective hf)

theorem RobotState.apply_of_turn {g : Grid} {p : Placement} {c : Command} {j : Heading}
    (h : c.turn? p.heading = some j) :
    (placed p).apply g c = (.applied, placed { p with heading := j }) := by
  cases c <;> cases h <;> rfl

namespace Reflection

/-- The coordinates by which a refusal names a target off the grid. -/
abbrev Target := Option UInt32 × Option UInt32

section
variable (f : Reflection) (Off : Target → Target → Prop)

/-! ## What is reflected -/

def placement (p : Placement) : Placement := ⟨f.cell p.cell, f.heading p.heading⟩

/-- Quarter turns go the other way. -/
def command : Command → Command
  | .place p => .place (f.placement p)
  | .left => .right
  | .right => .left
  | c => c

def state : RobotState → RobotState
  | .unplaced => .unplaced
  | .placed p => .placed (f.placement p)

/-- The outcomes are of the same kind, and the placement or the obstacle that the first names is
reflected in the second. Targets off the grid are related by `Off`. -/
inductive Image : Outcome → Outcome → Prop
  | applied : Image .applied .applied
  | reported (p : Placement) : Image (.reported p) (.reported (f.placement p))
  | notPlaced : Image (.rejected .notPlaced) (.rejected .notPlaced)
  | outOfBounds {a b : Target} (h : Off a b) :
    Image (.rejected (.outOfBounds a.1 a.2)) (.rejected (.outOfBounds b.1 b.2))
  | obstacle (c : Cell) : Image (.rejected (.obstacle c)) (.rejected (.obstacle (f.cell c)))

/-- The outcomes are images and the states after them are reflected. -/
def Corresponds (e i : Outcome × RobotState) : Prop :=
  f.Image Off e.1 i.1 ∧ i.2 = f.state e.2

/-- The reflection carries `g` to `k`. -/
structure Carries (g k : Grid) : Prop where
  turn : ∀ c h, (f.command c).turn? (f.heading h) = (c.turn? h).map f.heading
  contains : ∀ c, k.contains (f.cell c) = g.contains c
  hasObstacle : ∀ c, k.hasObstacle (f.cell c) = g.hasObstacle c
  /-- A cell off the grid is named as its reflection is. -/
  off : ∀ c, g.contains c = false →
    Off (some c.x, some c.y) (some (f.cell c).x, some (f.cell c).y)
  /-- From a cell inside, either the reflected step leads to the reflected cell, or both steps are
  refused. -/
  move : ∀ p, g.contains p.cell →
    (∃ d, p.cell.ahead p.heading = some d ∧
      (f.cell p.cell).ahead (f.heading p.heading) = some (f.cell d)) ∨
    ∃ a b, Off a b ∧ (RobotState.placed p).next g .move = .error (.outOfBounds a.1 a.2) ∧
      (RobotState.placed (f.placement p)).next k .move = .error (.outOfBounds b.1 b.2)

end

section
variable {f : Reflection} {Off : Target → Target → Prop} {g k : Grid}

/-! ## One command -/

/-- Commands that lead to a cell and to its reflection. -/
theorem Carries.apply_enter (h : f.Carries Off g k) {s : RobotState} {c : Command} {p : Placement}
    (hg : s.next g c = g.enter p)
    (hk : (f.state s).next k (f.command c) = k.enter (f.placement p)) :
    f.Corresponds Off (s.apply g c) ((f.state s).apply k (f.command c)) := by
  have hin : k.contains (f.placement p).cell = g.contains p.cell := h.contains p.cell
  have hblocked : k.hasObstacle (f.placement p).cell = g.hasObstacle p.cell :=
    h.hasObstacle p.cell
  unfold Grid.enter at hg hk
  rw [hin, hblocked] at hk
  cases hc : g.contains p.cell with
  | false =>
    rw [hc] at hg hk
    rw [RobotState.apply_of_error hg, RobotState.apply_of_error hk]
    exact ⟨.outOfBounds (h.off p.cell hc), rfl⟩
  | true =>
    rw [hc] at hg hk
    cases ho : g.hasObstacle p.cell with
    | true =>
      rw [ho] at hg hk
      rw [RobotState.apply_of_error hg, RobotState.apply_of_error hk]
      exact ⟨.obstacle p.cell, rfl⟩
    | false =>
      rw [ho] at hg hk
      rw [RobotState.apply_of_ok hg, RobotState.apply_of_ok hk]
      exact ⟨.applied, rfl⟩

theorem Carries.apply_move (h : f.Carries Off g k) {p : Placement} (hp : g.contains p.cell) :
    f.Corresponds Off ((RobotState.placed p).apply g .move)
      ((f.state (.placed p)).apply k .move) := by
  rcases h.move p hp with ⟨d, hd, hfd⟩ | ⟨a, b, hab, ha, hb⟩
  · exact h.apply_enter (RobotState.next_move_of_ahead hd) (RobotState.next_move_of_ahead hfd)
  · have himage : (f.state (.placed p)).next k .move = .error (.outOfBounds b.1 b.2) := hb
    rw [RobotState.apply_of_error ha, RobotState.apply_of_error himage]
    exact ⟨.outOfBounds hab, rfl⟩

theorem Carries.apply_turn (h : f.Carries Off g k) {p : Placement} {c : Command} {j : Heading}
    (hturn : c.turn? p.heading = some j) :
    f.Corresponds Off ((RobotState.placed p).apply g c)
      ((f.state (.placed p)).apply k (f.command c)) := by
  have himage : (f.command c).turn? (f.placement p).heading = some (f.heading j) := by
    rw [← Option.map_some, ← hturn]
    exact h.turn c p.heading
  rw [RobotState.apply_of_turn hturn, state, RobotState.apply_of_turn himage]
  exact ⟨.applied, rfl⟩

/-- **One command.** It does to the reflected robot what is the reflection of what it does to the
robot. -/
theorem Carries.apply_image (h : f.Carries Off g k) {s : RobotState} (hs : s.Stands g)
    (c : Command) : f.Corresponds Off (s.apply g c) ((f.state s).apply k (f.command c)) := by
  cases s with
  | unplaced =>
    cases c with
    | place p => exact h.apply_enter rfl rfl
    | _ => exact ⟨.notPlaced, rfl⟩
  | placed p =>
    cases c with
    | place q => exact h.apply_enter rfl rfl
    | move => exact h.apply_move (Grid.isOpen_iff.1 (hs p rfl)).1
    | report => exact ⟨.reported p, rfl⟩
    | _ => exact h.apply_turn rfl

/-! ## Whole runs -/

/-- **Runs.** The run of the reflected commands is, step by step, the reflected run. -/
theorem Carries.run_image (h : f.Carries Off g k) {s : RobotState} (hs : s.Stands g)
    (cs : List Command) :
    List.Forall₂ (f.Corresponds Off) (s.run g cs) ((f.state s).run k (cs.map f.command)) := by
  induction cs generalizing s with
  | nil => exact .nil
  | cons c cs ih =>
    have hc := h.apply_image hs c
    have hrest := ih (RobotState.stands_apply hs c)
    rw [← hc.2] at hrest
    exact .cons hc hrest

end

end Reflection

end Gridbot
