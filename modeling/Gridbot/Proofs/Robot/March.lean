import Gridbot.Proofs.Robot.Verdict
import Mathlib.Data.Nat.Find

/-!
# Marching

A robot that moves again and again walks through the open cells ahead of it up to the last one. From
there on every move is refused in the same way, with the first cell that is not open as its target.

The cells ahead are poses in unbounded integers, and `clearance` counts those in front of the first
that is not open. There is such a one in every direction, as a grid ends.

* `clearance_eq_iff`: what is counted.
* `onward_eq_upToWall`: how far that is where nothing on the grid is blocked.
* `exists_marches`: what any number of moves come to, by induction on the cells that are clear.
* `march_up_to_block`: this for a robot that some commands brought to a place.
-/

namespace Gridbot

namespace Ideal

/-- The pose `k` cells further in the direction that the robot faces. -/
def Pose.onward (p : Pose) (k : Nat) : Pose :=
  { p with x := p.x + k * (unit p.heading).1, y := p.y + k * (unit p.heading).2 }

/-- Up to `n` cells further, but not over the wall. -/
def Pose.upToWall (g : Grid) (p : Pose) (n : Nat) : Pose :=
  match p.heading with
  | .north => { p with y := min (p.y + n) (g.width.toNat - 1) }
  | .south => { p with y := max (p.y - n) 0 }
  | .east => { p with x := min (p.x + n) (g.length.toNat - 1) }
  | .west => { p with x := max (p.x - n) 0 }

/-- A robot may stand there. -/
def Open (g : Grid) (p : Pose) : Prop := Inside g p ∧ ¬Blocked g p

instance (g : Grid) (p : Pose) : Decidable (Open g p) := inferInstanceAs (Decidable (_ ∧ _))

/-- How a target that is not open is refused. -/
def refusal (g : Grid) (p : Pose) : Refusal :=
  if Inside g p then .blocked p.x p.y else .outside p.x p.y

/-! ## Cells ahead -/

theorem onward_zero (p : Pose) : p.onward 0 = p := by simp [Pose.onward]

theorem onward_one (p : Pose) : p.onward 1 = p.ahead := by simp [Pose.onward, Pose.ahead]

theorem ahead_onward (p : Pose) (k : Nat) : p.ahead.onward k = p.onward (k + 1) := by
  cases hk : p.heading <;> simp [Pose.onward, Pose.ahead, unit, hk] <;> omega

/-- Whatever the direction, the grid ends. -/
theorem exists_not_open (g : Grid) (p : Pose) : ∃ k, ¬Open g (p.onward (k + 1)) := by
  -- farther than the pose can be from any wall
  refine ⟨p.x.natAbs + p.y.natAbs + g.length.toNat + g.width.toNat, fun h => ?_⟩
  obtain ⟨hx, hl, hy, hw⟩ := h.1
  cases hk : p.heading <;> simp only [Pose.onward, unit, hk] at hx hl hy hw <;> omega

/-- The number of open cells ahead, up to the first one that is not open. -/
def clearance (g : Grid) (p : Pose) : Nat := Nat.find (exists_not_open g p)

theorem clearance_eq_iff {g : Grid} {p : Pose} {d : Nat} :
    clearance g p = d ↔ ¬Open g (p.onward (d + 1)) ∧ ∀ k < d, Open g (p.onward (k + 1)) := by
  simp only [clearance, Nat.find_eq_iff, not_not]

theorem open_ahead_of_clearance {g : Grid} {p : Pose} {d : Nat} (h : clearance g p = d + 1) :
    Open g p.ahead := by
  rw [← onward_one]
  exact (clearance_eq_iff.1 h).2 0 (Nat.succ_pos d)

theorem clearance_ahead {g : Grid} {p : Pose} {d : Nat} (h : clearance g p = d + 1) :
    clearance g p.ahead = d := by
  obtain ⟨hstop, hclear⟩ := clearance_eq_iff.1 h
  refine clearance_eq_iff.2 ⟨?_, fun k hk => ?_⟩
  · rwa [ahead_onward]
  · rw [ahead_onward]
    exact hclear (k + 1) (Nat.succ_lt_succ hk)

theorem enter_of_not_open {g : Grid} {s : Option Pose} {p : Pose} (h : ¬Open g p) :
    enter g s p = (.rejected (refusal g p), s) := by
  unfold enter refusal
  by_cases hin : Inside g p
  · have hblocked : Blocked g p := Classical.byContradiction fun hb => h ⟨hin, hb⟩
    simp only [hin, hblocked, not_true_eq_false, if_false, if_true]
  · simp only [hin, not_false_eq_true, if_true, if_false]

/-- Where nothing is blocked, the way is clear up to the wall. -/
theorem onward_eq_upToWall {g : Grid} {p : Pose} (hp : Inside g p)
    (hfree : ∀ q, Inside g q → ¬Blocked g q) (n : Nat) :
    p.onward (min n (clearance g p)) = p.upToWall g n := by
  obtain ⟨hstop, hclear⟩ := clearance_eq_iff.1 (rfl : clearance g p = clearance g p)
  have hout : ¬Inside g (p.onward (clearance g p + 1)) := fun h => hstop ⟨h, hfree _ h⟩
  have hlast : Inside g (p.onward (clearance g p)) := by
    cases hd : clearance g p with
    | zero => rwa [onward_zero]
    | succ d => exact (hclear d (by omega)).1
  -- the last clear cell is inside and the next is not, so the wall is between them
  generalize clearance g p = d at *
  obtain ⟨x, y, k⟩ := p
  cases k <;>
    simp only [Inside, Pose.onward, unit, Pose.upToWall, Pose.mk.injEq, and_true]
      at hp hout hlast ⊢ <;>
    omega

end Ideal

open Gridbot.Ideal

namespace RobotState

/-- What any number of moves come to: the first `d` are applied, each takes the robot a cell
further, and all others are refused as `r`. -/
structure Marches (g : Grid) (p : Placement) (d : Nat) (r : Rejection) : Prop where
  outcomes : ∀ n, ((placed p).run g (.replicate n .move)).map Prod.fst =
    .replicate (min n d) .applied ++ .replicate (n - d) (.rejected r)
  pose : ∀ n, ((placed p).applyAll g (.replicate n .move)).ideal =
    some ((Pose.ofPlacement p).onward (min n d))

section
variable {g : Grid} {p q : Placement} {d : Nat} {r : Rejection}

/-! ## One move -/

theorem move_of_open (h : Open g (Pose.ofPlacement p).ahead) :
    ∃ q, (placed p).apply g .move = (.applied, placed q) ∧ g.isOpen q.cell ∧
      Pose.ofPlacement q = (Pose.ofPlacement p).ahead := by
  have henter : Entering g (Pose.ofPlacement p).ahead ((placed p).next g .move) :=
    entering_next rfl
  generalize hnext : (placed p).next g .move = answer at henter
  cases henter with
  | outside hout => exact absurd h.1 hout
  | blocked _ _ hblocked => exact absurd hblocked h.2
  | @entered q hq _ _ =>
    rw [← hq] at h
    have hin := inside_ofPlacement.1 h.1
    have hfree := fun hb => h.2 (blocked_ofPlacement.2 hb)
    exact ⟨q, apply_of_ok hnext, Grid.isOpen_iff.2 ⟨hin, hfree⟩, hq⟩

theorem move_of_not_open (hp : g.contains p.cell) (h : ¬Open g (Pose.ofPlacement p).ahead) :
    ∃ r, (placed p).apply g .move = (.rejected r, placed p) ∧
      r.ideal = refusal g (Pose.ofPlacement p).ahead := by
  cases hnext : (placed p).next g .move with
  | ok t => exact absurd ((next_ok_iff.1 ⟨t, hnext⟩).2 _ rfl) h
  | error r =>
    have hname := Ideal.apply_move hp
    rw [enter_of_not_open h, apply_of_error hnext] at hname
    exact ⟨r, apply_of_error hnext, Ideal.Outcome.rejected.inj (congrArg Prod.fst hname)⟩

/-! ## Many moves -/

/-- A robot in front of a cell that is not open stays there. -/
theorem marches_of_rejected (h : (placed p).apply g .move = (.rejected r, placed p)) :
    Marches g p 0 r where
  outcomes n := by
    induction n with
    | zero => rfl
    | succ n ih =>
      rw [List.replicate_succ, run, h, List.map_cons, ih]
      simp [List.replicate_succ]
  pose n := by
    rw [Nat.min_zero, onward_zero]
    induction n with
    | zero => rfl
    | succ n ih => rw [List.replicate_succ, applyAll, h, ih]

/-- One cell more behind it is one move more. -/
theorem Marches.succ (hq : Marches g q d r) (h : (placed p).apply g .move = (.applied, placed q))
    (hahead : Pose.ofPlacement q = (Pose.ofPlacement p).ahead) : Marches g p (d + 1) r where
  outcomes n := by
    cases n with
    | zero => simp [run]
    | succ n =>
      rw [List.replicate_succ, run, h, List.map_cons, hq.outcomes, Nat.succ_min_succ,
        Nat.succ_sub_succ]
      rfl
  pose n := by
    cases n with
    | zero => simp [applyAll, ideal, onward_zero]
    | succ n =>
      rw [List.replicate_succ, applyAll, h, hq.pose, hahead, ahead_onward, Nat.succ_min_succ]

/-- **Any number of moves.** The induction is on the cells that are clear. The one behind them is
the same for a robot one cell further. -/
theorem exists_marches (hp : g.isOpen p.cell) (hd : clearance g (Pose.ofPlacement p) = d) :
    ∃ r, r.ideal = refusal g ((Pose.ofPlacement p).onward (d + 1)) ∧ Marches g p d r := by
  induction d generalizing p with
  | zero =>
    have hstop := (clearance_eq_iff.1 hd).1
    rw [onward_one] at hstop ⊢
    obtain ⟨r, hr, hname⟩ := move_of_not_open (Grid.isOpen_iff.1 hp).1 hstop
    exact ⟨r, hname, marches_of_rejected hr⟩
  | succ d ih =>
    obtain ⟨q, hq, hopen, hahead⟩ := move_of_open (open_ahead_of_clearance hd)
    obtain ⟨r, hname, hmarches⟩ := ih hopen (by rw [hahead]; exact clearance_ahead hd)
    rw [hahead, ahead_onward] at hname
    exact ⟨r, hname, hmarches.succ hq hahead⟩

end

/-- **Marching.** Let `d` be the number of open cells ahead of a robot that some commands brought to
`p`, up to the first that is not open. Of any number of moves the first `d` are applied, and all
others are refused in one and the same way, which names the first cell that is not open: as an
obstacle if it is inside, and else as a place outside. The robot ends as many cells further as moves
were applied; where no cell of the grid is blocked, this is at the wall if the moves reach it. -/
theorem march_up_to_block (g : Grid) (p : Placement) (hp : Reachable g (placed p)) :
    let start := Pose.ofPlacement p
    let d := clearance g start
    (¬Open g (start.onward (d + 1)) ∧ ∀ k < d, Open g (start.onward (k + 1))) ∧
    (∃ r, r.ideal = refusal g (start.onward (d + 1)) ∧ Marches g p d r) ∧
    ((∀ c ∈ g.obstacles, ¬g.contains c) → ∀ n,
      ((placed p).applyAll g (.replicate n .move)).ideal = some (start.upToWall g n)) := by
  intro start d
  have hopen := reachable_placed_iff.1 hp
  obtain ⟨r, hname, hmarches⟩ := exists_marches hopen rfl
  refine ⟨clearance_eq_iff.1 rfl, ⟨r, hname, hmarches⟩, fun hclear n => ?_⟩
  have hfree : ∀ q, Inside g q → ¬Blocked g q := by
    rintro ⟨x, y, k⟩ hin ⟨c, hc, rfl, rfl⟩
    exact hclear c hc (inside_ofPlacement (p := ⟨c, k⟩).1 hin)
  have hin := inside_ofPlacement.2 (Grid.isOpen_iff.1 hopen).1
  rw [hmarches.pose, onward_eq_upToWall hin hfree]

/-- Two cells in front of an obstacle; and at the start of the longest row there is, for more moves
than there are coordinates. -/
theorem march_up_to_block_or_wall :
    let g : Grid := ⟨5, 1, [⟨3, 0⟩], by decide, by decide, List.pairwise_singleton _ _⟩
    let k : Grid := ⟨4294967295, 1, [], by decide, by decide, List.Pairwise.nil⟩
    let p : Placement := ⟨⟨0, 0⟩, .east⟩
    Reachable g (placed p) ∧ clearance g (Pose.ofPlacement p) = 2 ∧
      (∃ r, r.ideal = .blocked 3 0 ∧ Marches g p 2 r) ∧
      Reachable k (placed p) ∧ (∀ c ∈ k.obstacles, ¬k.contains c) ∧
      ((placed p).applyAll k (.replicate 5000000000 .move)).ideal =
        some ⟨4294967294, 0, .east⟩ := by
  intro g k p
  have hg : Reachable g (placed p) := ⟨[.place p], by decide⟩
  have hk : Reachable k (placed p) := ⟨[.place p], by decide⟩
  have hclear : ∀ c ∈ k.obstacles, ¬k.contains c := fun c hc => absurd hc List.not_mem_nil
  have hd : clearance g (Pose.ofPlacement p) = 2 := clearance_eq_iff.2 (by decide)
  obtain ⟨-, ⟨r, hname, hmarches⟩, -⟩ := march_up_to_block g p hg
  rw [hd] at hname hmarches
  have hend : (Pose.ofPlacement p).upToWall k 5000000000 = ⟨4294967294, 0, .east⟩ := by decide
  have hwall := (march_up_to_block k p hk).2.2 hclear 5000000000
  rw [hend] at hwall
  exact ⟨hg, hd, ⟨r, hname, hmarches⟩, hk, hclear, hwall⟩

end RobotState

end Gridbot
