import Gridbot.Proofs.Robot.Region

/-!
# What decides about a command

`RobotState.next` has an answer for every state, for those too that no robot comes to: off the grid,
on a blocked cell, at the largest coordinate. What the answer is depends on where the command leads
to in unbounded integers, and on nothing else about the cell that the robot is on.

* `entering_next`: a command that leads to a pose is accepted if the pose is inside and not blocked.
  A step that leaves the coordinates leads outside as well, so its refusal is of the right kind even
  where it names a wrong target.
* `staying_next`: a command that leads nowhere is accepted if the robot is placed.
* `next_decided`: the condition for each answer; and a command that leads somewhere, once accepted,
  puts the robot on the open cells for good.
-/

namespace Gridbot

open Gridbot.Ideal

/-- The pose that a command leads to, if it leads to one. -/
def RobotState.goal? : RobotState → Command → Option Pose
  | _, .place p => some (.ofPlacement p)
  | .placed p, .move => some (Pose.ofPlacement p).ahead
  | _, _ => none

/-- The answers to a command that leads to `t`. -/
inductive Entering (g : Grid) (t : Pose) : Except Rejection Transition → Prop
  | outside (hout : ¬Inside g t) (x y : Option UInt32) : Entering g t (.error (.outOfBounds x y))
  | blocked {q : Placement} (hq : Pose.ofPlacement q = t) (hin : Inside g t)
      (hblocked : Blocked g t) : Entering g t (.error (.obstacle q.cell))
  | entered {q : Placement} (hq : Pose.ofPlacement q = t) (hin : Inside g t)
      (hfree : ¬Blocked g t) : Entering g t (.ok ⟨.placed q, none⟩)

/-- The answers to a command that leads nowhere. -/
inductive Staying (s : RobotState) (c : Command) : Except Rejection Transition → Prop
  | notPlaced (hs : s = .unplaced) (hc : ∀ p, c ≠ .place p) : Staying s c (.error .notPlaced)
  | turned {p : Placement} {k : Heading} (hs : s = .placed p) (hturn : c.turn? p.heading = some k) :
    Staying s c (.ok ⟨.placed { p with heading := k }, none⟩)
  | reported {p : Placement} (hs : s = .placed p) (hc : c = .report) :
    Staying s c (.ok ⟨.placed p, some p⟩)

/-- What an accepted command does. -/
structure Accepts (g : Grid) (s : RobotState) (c : Command) (t : Transition) : Prop where
  /-- One that leads to a pose takes the robot there, and its cell is open. -/
  arrives : ∀ q, s.goal? c = some q →
    ∃ p, t.state = .placed p ∧ Pose.ofPlacement p = q ∧ g.isOpen p.cell
  /-- One that leads nowhere keeps the cell, whatever it is. -/
  stays : s.goal? c = none → ∃ p q, s = .placed p ∧ t.state = .placed q ∧ q.cell = p.cell
  /-- A placement is reported by `report` alone, and it is the robot's own. -/
  reports : ∀ p, t.report = some p ↔ c = .report ∧ s = .placed p
  unchanged : c = .report → t.state = s

namespace Ideal

/-- A step that leaves the coordinates leads outside the grid, from whatever cell. -/
theorem not_inside_of_ahead_eq_none (g : Grid) {p : Placement}
    (h : p.cell.ahead p.heading = none) : ¬Inside g (Pose.ofPlacement p).ahead := by
  -- the sizes are coordinates too, so there is a wall before either end of the coordinates
  have hl := g.length.toNat_lt
  have hw := g.width.toNat_lt
  obtain ⟨c, k⟩ := p
  cases k <;>
    simp only [Cell.ahead, ite_eq_right_iff, reduceCtorEq, imp_false, UInt32.size] at h <;>
    simp only [Inside, Pose.ofPlacement, Pose.ahead, unit] <;>
    omega

end Ideal

namespace RobotState

variable {g : Grid} {s : RobotState} {c : Command}

/-! ## Commands that lead somewhere -/

theorem entering_enter (g : Grid) (p : Placement) :
    Entering g (.ofPlacement p) (g.enter p) := by
  unfold Grid.enter
  by_cases hin : g.contains p.cell
  · have hinside := inside_ofPlacement.2 hin
    by_cases hblocked : g.hasObstacle p.cell
    · simp only [hin, hblocked]
      exact .blocked rfl hinside (blocked_ofPlacement.2 hblocked)
    · simp only [hin, hblocked]
      exact .entered rfl hinside fun h => hblocked (blocked_ofPlacement.1 h)
  · simp only [hin]
    exact .outside (fun h => hin (inside_ofPlacement.1 h)) _ _

/-- The answer to a command that leads to a pose. -/
theorem entering_next {t : Pose} (ht : s.goal? c = some t) : Entering g t (s.next g c) := by
  cases c with
  | place p =>
    have hp : Pose.ofPlacement p = t := by cases s <;> exact Option.some.inj ht
    rw [next_place, ← hp]
    exact entering_enter g p
  | move =>
    cases s with
    | unplaced => cases ht
    | placed p =>
      have hp : (Pose.ofPlacement p).ahead = t := Option.some.inj ht
      rw [← hp]
      cases hd : p.cell.ahead p.heading with
      | none =>
        rw [next_move_of_eq_none hd]
        have hout := not_inside_of_ahead_eq_none g hd
        unfold Rejection.offCoordinates
        split <;> exact .outside hout _ _
      | some d =>
        rw [next_move_of_ahead hd, ← ofPlacement_ahead hd]
        exact entering_enter g _
  | _ => cases s <;> cases ht

/-! ## Commands that lead nowhere -/

theorem staying_next (g : Grid) (ht : s.goal? c = none) : Staying s c (s.next g c) := by
  cases s with
  | unplaced =>
    cases c with
    | place p => cases ht
    | _ => exact .notPlaced rfl fun p hp => by cases hp
  | placed p =>
    cases c with
    | place q => cases ht
    | move => cases ht
    | report => exact .reported rfl rfl
    | _ => exact .turned rfl rfl

/-- Every answer is one of the two kinds. -/
theorem answer_of_next {answer : Except Rejection Transition} (h : s.next g c = answer) :
    (s.goal? c = none ∧ Staying s c answer) ∨ ∃ t, s.goal? c = some t ∧ Entering g t answer := by
  subst h
  cases ht : s.goal? c with
  | none => exact Or.inl ⟨rfl, staying_next g ht⟩
  | some t => exact Or.inr ⟨t, rfl, entering_next ht⟩

/-! ## Refusals -/

theorem next_eq_notPlaced_iff :
    s.next g c = .error .notPlaced ↔ s = .unplaced ∧ ∀ p, c ≠ .place p := by
  constructor
  · intro h
    rcases answer_of_next h with ⟨-, hstay⟩ | ⟨t, -, henter⟩
    · cases hstay with
      | notPlaced hs hc => exact ⟨hs, hc⟩
    · cases henter
  · rintro ⟨rfl, hc⟩
    cases c with
    | place p => exact absurd rfl (hc p)
    | _ => rfl

theorem next_eq_outOfBounds_iff :
    (∃ x y, s.next g c = .error (.outOfBounds x y)) ↔ ∃ t, s.goal? c = some t ∧ ¬Inside g t := by
  constructor
  · rintro ⟨x, y, h⟩
    rcases answer_of_next h with ⟨-, hstay⟩ | ⟨t, ht, henter⟩
    · cases hstay
    · cases henter with
      | outside hout => exact ⟨t, ht, hout⟩
  · rintro ⟨t, ht, hout⟩
    have henter := entering_next (g := g) ht
    generalize s.next g c = answer at henter
    cases henter with
    | outside _ x y => exact ⟨x, y, rfl⟩
    | blocked _ hin _ => exact absurd hin hout
    | entered _ hin _ => exact absurd hin hout

theorem next_eq_obstacle_iff {d : Cell} :
    s.next g c = .error (.obstacle d) ↔
      ∃ t, s.goal? c = some t ∧ Inside g t ∧ Blocked g t ∧ t.x = d.x.toNat ∧ t.y = d.y.toNat := by
  constructor
  · intro h
    rcases answer_of_next h with ⟨-, hstay⟩ | ⟨t, ht, henter⟩
    · cases hstay
    · cases henter with
      | blocked hq hin hblocked =>
        subst hq
        exact ⟨_, ht, hin, hblocked, rfl, rfl⟩
  · rintro ⟨t, ht, hin, hblocked, hx, hy⟩
    have henter := entering_next (g := g) ht
    generalize s.next g c = answer at henter
    cases henter with
    | outside hout => exact absurd hin hout
    | @blocked q hq _ _ =>
      subst hq
      have hd : q.cell = d := Cell.ext_iff_toNat.2 ⟨Int.ofNat.inj hx, Int.ofNat.inj hy⟩
      rw [hd]
    | entered _ _ hfree => exact absurd hblocked hfree

/-! ## Acceptance -/

theorem next_ok_iff :
    (∃ t, s.next g c = .ok t) ↔ ¬(s = .unplaced ∧ ∀ p, c ≠ .place p) ∧
      ∀ t, s.goal? c = some t → Inside g t ∧ ¬Blocked g t := by
  constructor
  · rintro ⟨t, h⟩
    refine ⟨fun hn => ?_, fun q hq => ?_⟩
    · rw [next_eq_notPlaced_iff.2 hn] at h
      cases h
    · have henter := entering_next (g := g) hq
      rw [h] at henter
      cases henter with
      | entered _ hin hfree => exact ⟨hin, hfree⟩
  · rintro ⟨hplaced, hopen⟩
    cases h : s.next g c with
    | ok t => exact ⟨t, rfl⟩
    | error r =>
      cases r with
      | notPlaced => exact absurd (next_eq_notPlaced_iff.1 h) hplaced
      | outOfBounds x y =>
        obtain ⟨t, ht, hout⟩ := next_eq_outOfBounds_iff.1 ⟨x, y, h⟩
        exact absurd (hopen t ht).1 hout
      | obstacle d =>
        obtain ⟨t, ht, -, hblocked, -⟩ := next_eq_obstacle_iff.1 h
        exact absurd hblocked (hopen t ht).2

theorem accepts_of_next {t : Transition} (h : s.next g c = .ok t) : Accepts g s c t := by
  rcases next_cases h with ⟨p, rfl, ho, rfl⟩ | ⟨p, d, rfl, rfl, hd, ho, rfl⟩ |
    ⟨p, k, rfl, hturn, rfl⟩ | ⟨p, rfl, rfl, rfl⟩
  · have hgoal : s.goal? (.place p) = some (.ofPlacement p) := by cases s <;> rfl
    constructor <;> simp [hgoal, ho]
  · have hgoal : (placed p).goal? .move = some (Pose.ofPlacement { p with cell := d }) :=
      congrArg some (ofPlacement_ahead hd).symm
    constructor <;> simp [hgoal, ho]
  · have hgoal : (placed p).goal? c = none := by cases c <;> cases hturn <;> rfl
    have hreport : c ≠ .report := by rintro rfl; cases hturn
    constructor <;> simp [hgoal, hreport]
  · have hgoal : (placed p).goal? .report = none := rfl
    constructor <;> simp [hgoal]

/-! ## On the open cells for good -/

theorem applyAll_of_open {p : Placement} (h : g.isOpen p.cell) (cs : List Command) :
    ∃ q, (placed p).applyAll g cs = placed q ∧ g.isOpen q.cell := by
  induction cs generalizing p with
  | nil => exact ⟨p, rfl, h⟩
  | cons c cs ih =>
    have hstands := stands_apply (stands_placed.2 h) c
    cases hc : ((placed p).apply g c).2 with
    | unplaced =>
      have hp := (apply_eq_unplaced_iff.1 hc).1
      cases hp
    | placed q =>
      rw [applyAll, hc]
      exact ih (hstands q hc)

/-- A robot that a command leads somewhere is on an open cell then and after any more commands. -/
theorem open_after_place_or_move {t : Transition} (h : s.next g c = .ok t)
    (hc : c = .move ∨ ∃ p, c = .place p) (cs : List Command) :
    ∃ p, t.state.applyAll g cs = placed p ∧ g.isOpen p.cell := by
  rcases next_cases h with ⟨p, -, ho, rfl⟩ | ⟨p, d, -, -, -, ho, rfl⟩ | ⟨p, k, -, hturn, -⟩ |
    ⟨p, -, hreport, -⟩
  · exact applyAll_of_open ho cs
  · exact applyAll_of_open ho cs
  · rcases hc with rfl | ⟨p, rfl⟩ <;> cases hturn
  · rcases hc with rfl | ⟨p, rfl⟩ <;> cases hreport

/-- **What decides.** In every state, a command is refused because the robot is not placed exactly
if that is so and the command does not place it; because it leads outside exactly if it does;
because of an obstacle exactly if it leads to that one; and otherwise it is accepted. By one
accepted command that leads somewhere, a robot comes to an open cell, and it never leaves these
again. -/
theorem next_decided (g : Grid) (s : RobotState) (c : Command) :
    (s.next g c = .error .notPlaced ↔ s = .unplaced ∧ ∀ p, c ≠ .place p) ∧
    ((∃ x y, s.next g c = .error (.outOfBounds x y)) ↔
      ∃ t, s.goal? c = some t ∧ ¬Inside g t) ∧
    (∀ d : Cell, s.next g c = .error (.obstacle d) ↔
      ∃ t, s.goal? c = some t ∧ Inside g t ∧ Blocked g t ∧ t.x = d.x.toNat ∧ t.y = d.y.toNat) ∧
    ((∃ t, s.next g c = .ok t) ↔ ¬(s = .unplaced ∧ ∀ p, c ≠ .place p) ∧
      ∀ t, s.goal? c = some t → Inside g t ∧ ¬Blocked g t) ∧
    ∀ t, s.next g c = .ok t → Accepts g s c t ∧
      ((c = .move ∨ ∃ p, c = .place p) → ∀ cs : List Command,
        ∃ p, t.state.applyAll g cs = placed p ∧ g.isOpen p.cell) :=
  ⟨next_eq_notPlaced_iff, next_eq_outOfBounds_iff, fun _ => next_eq_obstacle_iff, next_ok_iff,
    fun _ h => ⟨accepts_of_next h, open_after_place_or_move h⟩⟩

/-- A robot off the grid, in the last column there is. Neither a step out of the coordinates nor one
back is accepted, but it can turn, and it can be placed. -/
example :
    let g : Grid := ⟨4294967295, 1, [⟨3, 0⟩], by decide, by decide, by decide⟩
    let s : RobotState := placed ⟨⟨4294967295, 7⟩, .east⟩
    (s.run g [.move, .flip, .move, .place ⟨⟨3, 0⟩, .north⟩, .place ⟨⟨4, 0⟩, .north⟩]).map Prod.fst =
      [.rejected (.outOfBounds (some 4294967295) none), .applied,
        .rejected (.outOfBounds (some 4294967294) (some 7)), .rejected (.obstacle ⟨3, 0⟩),
        .applied] := by
  decide

end RobotState

end Gridbot
