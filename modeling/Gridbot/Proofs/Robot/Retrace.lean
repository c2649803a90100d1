import Gridbot.Proofs.Robot.Reflection
import Gridbot.Proofs.Robot.Region

/-!
# Walking back

A walk is made of moves and turns that are all applied. It can be walked back: the robot turns
about, undoes the commands from the last to the first, in which left and right change places, and
turns about again.

* `apply_reversed`: one step. What a robot did is undone by the robot that faces the other way.
* `Walk.reversed`: a whole walk, by induction over it. Its states come up in reverse, each about
  faced.
* `walk_back`: the way back from where a walk of a reachable robot ended.
-/

namespace Gridbot

namespace Command

/-- The moves and turns. -/
def steps : List Command := [move, left, right, flip]

/-- What undoes a step for a robot that faces the other way. -/
def reversed : Command → Command
  | left => right
  | right => left
  | c => c

/-- Turns about, undoes the steps from the last to the first, and turns about again. -/
def wayBack (cs : List Command) : List Command := flip :: (cs.reverse.map reversed ++ [flip])

end Command

namespace RobotState

/-- Where the robot is. -/
def cell? : RobotState → Option Cell
  | unplaced => none
  | placed p => some p.cell

/-- The robot at the same place, facing the other way. -/
def aboutFace : RobotState → RobotState
  | unplaced => unplaced
  | placed p => placed { p with heading := p.heading.flip }

/-- The states that the robot goes through, from the first to the last. -/
def states (g : Grid) (s : RobotState) (cs : List Command) : List RobotState :=
  s :: (s.run g cs).map Prod.snd

/-- The cells that the robot visits, from its first to its last. -/
def trail (g : Grid) (s : RobotState) (cs : List Command) : List (Option Cell) :=
  (s.states g cs).map cell?

/-- The steps lead from the first state to the last through the states listed, and each of them is
applied. -/
inductive Walk (g : Grid) : RobotState → List Command → List RobotState → RobotState → Prop
  | here (s : RobotState) : Walk g s [] [s] s
  | step {s t u : RobotState} {c : Command} {cs : List Command} {through : List RobotState}
      (hc : c ∈ Command.steps) (happly : s.apply g c = (.applied, t))
      (rest : Walk g t cs through u) : Walk g s (c :: cs) (s :: through) u

end RobotState

/-! ## Undoing one step -/

theorem Cell.ahead_flip {c d : Cell} {k : Heading} (h : c.ahead k = some d) :
    d.ahead k.flip = some c := by
  rw [Ideal.ahead_eq_some_iff] at h ⊢
  cases k <;> simp only [Heading.flip, Ideal.unit] at h ⊢ <;> omega

theorem Command.reversed_mem_steps {c : Command} (h : c ∈ steps) : c.reversed ∈ steps := by
  cases c <;> simp_all [steps, reversed]

theorem Command.turn?_reversed {c : Command} {h k : Heading} (hturn : c.turn? h = some k) :
    c.reversed.turn? k.flip = some h.flip := by
  cases c <;> cases hturn <;> cases h <;> rfl

namespace RobotState

@[simp] theorem aboutFace_aboutFace (s : RobotState) : s.aboutFace.aboutFace = s := by
  cases s with
  | unplaced => rfl
  | placed p => simp only [aboutFace, Heading.flip_flip]

theorem aboutFace_ne_unplaced {s : RobotState} (h : s ≠ .unplaced) : s.aboutFace ≠ .unplaced := by
  cases s with
  | unplaced => exact absurd rfl h
  | placed p => exact RobotState.noConfusion

@[simp] theorem cell?_aboutFace (s : RobotState) : s.aboutFace.cell? = s.cell? := by
  cases s <;> rfl

/-- **One step.** The robot that faces the other way after a step undoes the step. The cell that it
goes back to is open, as the robot stood there. -/
theorem apply_reversed {g : Grid} {s t : RobotState} {c : Command} (hs : s.Stands g)
    (hc : c ∈ Command.steps) (h : s.apply g c = (.applied, t)) :
    t.aboutFace.apply g c.reversed = (.applied, s.aboutFace) := by
  cases hn : s.next g c with
  | error r =>
    rw [apply_of_error hn] at h
    cases h
  | ok tr =>
    rcases next_cases hn with ⟨p, rfl, -, -⟩ | ⟨p, d, rfl, rfl, hd, -, rfl⟩ |
      ⟨p, k, rfl, hturn, rfl⟩ | ⟨p, -, rfl, -⟩
    · simp [Command.steps] at hc
    · rw [apply_of_ok hn, Prod.mk.injEq] at h
      rw [← h.2]
      exact apply_move_of_open (Cell.ahead_flip hd) (stands_placed.1 hs)
    · rw [apply_of_ok hn, Prod.mk.injEq] at h
      rw [← h.2]
      exact apply_of_turn (Command.turn?_reversed hturn)
    · simp [Command.steps] at hc

/-! ## Walks -/

theorem states_cons (g : Grid) (s : RobotState) (c : Command) (cs : List Command) :
    s.states g (c :: cs) = s :: (s.apply g c).2.states g cs := rfl

/-- Steps that are all applied are a walk. -/
theorem walk_of_applied {g : Grid} {s : RobotState} {cs : List Command}
    (hcs : ∀ c ∈ cs, c ∈ Command.steps) (happlied : ∀ e ∈ s.run g cs, e.1 = .applied) :
    Walk g s cs (s.states g cs) (s.applyAll g cs) := by
  induction cs generalizing s with
  | nil => exact .here s
  | cons c cs ih =>
    rw [run, List.forall_mem_cons] at happlied
    rw [List.forall_mem_cons] at hcs
    exact .step hcs.1 (Prod.ext happlied.1 rfl) (ih hcs.2 happlied.2)

section
variable {g : Grid} {s t u : RobotState} {cs : List Command} {through : List RobotState}

theorem Walk.applied (h : Walk g s cs through t) : ∀ e ∈ s.run g cs, e.1 = .applied := by
  induction h with
  | here s => exact fun e he => absurd he List.not_mem_nil
  | step hc happly rest ih =>
    rw [run, happly, List.forall_mem_cons]
    exact ⟨rfl, ih⟩

theorem Walk.states_eq (h : Walk g s cs through t) : s.states g cs = through := by
  induction h with
  | here s => rfl
  | step hc happly rest ih => rw [states_cons, happly, ih]

theorem Walk.applyAll_eq (h : Walk g s cs through t) : s.applyAll g cs = t := by
  induction h with
  | here s => rfl
  | step hc happly rest ih => rw [applyAll, happly, ih]

theorem Walk.ne_unplaced (h : Walk g s cs through t) (hs : s ≠ .unplaced) : t ≠ .unplaced := by
  induction h with
  | here s => exact hs
  | @step s t u c cs through hc happly rest ih =>
    refine ih fun ht => hs ?_
    have hc : (s.apply g c).2 = .unplaced := by rw [happly, ht]
    exact (apply_eq_unplaced_iff.1 hc).1

/-- One more step at the end of a walk. -/
theorem Walk.snoc {c : Command} (h : Walk g s cs through t) (hc : c ∈ Command.steps)
    (happly : t.apply g c = (.applied, u)) : Walk g s (cs ++ [c]) (through ++ [u]) u := by
  induction h with
  | here s => exact .step hc happly (.here u)
  | step hd hstep rest ih => exact .step hd hstep (ih happly)

/-- **Whole walks.** From the end, facing the other way, the steps are undone from the last to the
first. The induction is over the walk: its first step is undone last, behind the way back of the
rest. -/
theorem Walk.reversed (h : Walk g s cs through t) (hs : s.Stands g) :
    Walk g t.aboutFace (cs.reverse.map Command.reversed) (through.reverse.map aboutFace)
      s.aboutFace := by
  induction h with
  | here s => exact .here s.aboutFace
  | @step s t u c cs through hc happly rest ih =>
    have ht : t.Stands g := by
      have := stands_apply hs c
      rwa [happly] at this
    rw [List.reverse_cons, List.reverse_cons, List.map_append, List.map_append]
    exact (ih ht).snoc (Command.reversed_mem_steps hc) (apply_reversed hs hc happly)

end

/-! ## The way back -/

theorem apply_flip (g : Grid) {s : RobotState} (hs : s ≠ .unplaced) :
    s.apply g .flip = (.applied, s.aboutFace) := by
  cases s with
  | unplaced => exact absurd rfl hs
  | placed p => rfl

/-- The way back leads from the end of a walk to its start. -/
theorem Walk.back {g : Grid} {s t : RobotState} {cs : List Command} {through : List RobotState}
    (h : Walk g s cs through t) (hs : s.Stands g) (hplaced : s ≠ .unplaced) :
    Walk g t (Command.wayBack cs) (t :: (through.reverse.map aboutFace ++ [s])) s := by
  have hback := h.reversed hs
  have hflip : .flip ∈ Command.steps := by decide
  have hend : s.aboutFace.apply g .flip = (.applied, s) := by
    rw [apply_flip g (aboutFace_ne_unplaced hplaced), aboutFace_aboutFace]
  exact .step hflip (apply_flip g (h.ne_unplaced hplaced)) (hback.snoc hflip hend)

/-- **The way back.** Let a robot that some commands brought to `p` walk by moves and turns that
are all applied. Then all commands of the way back are applied too. They lead through the cells of
the walk in reverse, after a turn at its end and before one at its start, and back to `p` with the
heading that the robot had there. -/
theorem walk_back (g : Grid) (p : Placement) (hp : Reachable g (placed p)) (cs : List Command)
    (hcs : ∀ c ∈ cs, c ∈ Command.steps) (happlied : ∀ e ∈ (placed p).run g cs, e.1 = .applied) :
    let t := (placed p).applyAll g cs
    (∀ e ∈ t.run g (Command.wayBack cs), e.1 = .applied) ∧
    t.trail g (Command.wayBack cs) =
      t.cell? :: (((placed p).trail g cs).reverse ++ [some p.cell]) ∧
    t.applyAll g (Command.wayBack cs) = placed p := by
  intro t
  have hwalk : Walk g (placed p) cs ((placed p).states g cs) t := walk_of_applied hcs happlied
  have hback := hwalk.back hp.stands RobotState.noConfusion
  refine ⟨hback.applied, ?_, hback.applyAll_eq⟩
  have hcells : cell? ∘ aboutFace = cell? := funext cell?_aboutFace
  rw [trail, hback.states_eq, trail, List.map_cons, List.map_append, List.map_map, hcells,
    List.map_reverse]
  rfl

/-- Around an obstacle, on a board of two rows, and along three of its walls. -/
theorem walk_back_around_obstacle :
    let g : Grid := ⟨3, 2, [⟨1, 0⟩], by decide, by decide, List.pairwise_singleton _ _⟩
    let p : Placement := ⟨⟨0, 0⟩, .east⟩
    let cs : List Command := [.left, .move, .right, .move, .move, .right, .move, .flip]
    let t := (placed p).applyAll g cs
    Reachable g (placed p) ∧ (∀ c ∈ cs, c ∈ Command.steps) ∧
      (∀ e ∈ (placed p).run g cs, e.1 = .applied) ∧ t = placed ⟨⟨2, 0⟩, .north⟩ ∧
      (∀ e ∈ t.run g (Command.wayBack cs), e.1 = .applied) ∧
      t.trail g (Command.wayBack cs) =
        t.cell? :: (((placed p).trail g cs).reverse ++ [some p.cell]) ∧
      t.applyAll g (Command.wayBack cs) = placed p := by
  intro g p cs t
  have hp : Reachable g (placed p) := ⟨[.place p], by decide⟩
  have hcs : ∀ c ∈ cs, c ∈ Command.steps := by decide
  have happlied : ∀ e ∈ (placed p).run g cs, e.1 = .applied := by decide
  exact ⟨hp, hcs, happlied, by decide, walk_back g p hp cs hcs happlied⟩

end RobotState

end Gridbot
