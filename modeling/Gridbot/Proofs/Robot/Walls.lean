import Gridbot.Proofs.Robot.Reflection

/-!
# Opposite walls

Opposite walls are treated alike. Reflected in the middle column, the first column becomes the last
and east becomes west; and a new robot on the reflected grid that gets the reflected commands is at
every step where the reflection of the robot is, and is refused for the same kind of reason.

The walls are two different pieces of the rules. Beyond the western one there are no coordinates, so
that the step itself fails; beyond the eastern one there are, and the cell is found not to lie on the
grid. As a number, the column that is named is mirrored all the same.

* `Cell.ahead_mirror`: within the columns of the grid a reflected step is a step.
* `RobotState.next_move_of_leaves`: a step out of them is refused, at either wall.
* `carries_mirror`, `run_mirror`: the runs of a new robot.
-/

namespace Gridbot

/-! ## What is reflected in the middle column -/

/-- The cell as far from the last of `length` columns as `c` is from the first. A cell beyond them
stays where it is. -/
def Cell.mirror (length : UInt32) (c : Cell) : Cell :=
  if c.x < length then ⟨length - 1 - c.x, c.y⟩ else c

def Heading.mirror : Heading → Heading
  | .east => .west
  | .west => .east
  | h => h

/-- Reflection in the middle of `length` columns. -/
def Reflection.middle (length : UInt32) : Reflection := ⟨Cell.mirror length, Heading.mirror⟩

def Grid.mirror (g : Grid) : Grid := g.moveObstacles (Cell.mirror g.length)

theorem Heading.mirror_mirror (h : Heading) : h.mirror.mirror = h := by cases h <;> rfl

/-! ## Cells -/

namespace Cell

theorem mirror_y (l : UInt32) (c : Cell) : (c.mirror l).y = c.y := by
  unfold mirror
  split <;> rfl

theorem mirror_of_lt {l : UInt32} {c : Cell} (h : c.x.toNat < l.toNat) :
    (c.mirror l).x.toNat = l.toNat - 1 - c.x.toNat := by
  have hl := l.toNat_lt
  unfold mirror
  rw [if_pos (UInt32.lt_iff_toNat_lt.2 h)]
  simp only [UInt32.toNat_sub, UInt32.toNat_one]
  omega

theorem mirror_of_le {l : UInt32} {c : Cell} (h : l.toNat ≤ c.x.toNat) : c.mirror l = c := by
  unfold mirror
  rw [if_neg]
  rw [UInt32.lt_iff_toNat_lt]
  omega

theorem mirror_x_lt_iff {l : UInt32} {c : Cell} :
    (c.mirror l).x.toNat < l.toNat ↔ c.x.toNat < l.toNat := by
  by_cases h : c.x.toNat < l.toNat
  · rw [mirror_of_lt h]
    omega
  · rw [mirror_of_le (Nat.not_lt.1 h)]

theorem mirror_mirror (l : UInt32) (c : Cell) : (c.mirror l).mirror l = c := by
  by_cases h : c.x.toNat < l.toNat
  · rw [ext_iff_toNat, mirror_of_lt (mirror_x_lt_iff.2 h), mirror_of_lt h, mirror_y, mirror_y]
    omega
  · have hc := mirror_of_le (Nat.not_lt.1 h)
    rw [hc, hc]

theorem ahead_mirror {l : UInt32} {c d : Cell} {h : Heading} (hc : c.x.toNat < l.toNat)
    (hd : d.x.toNat < l.toNat) (hstep : c.ahead h = some d) :
    (c.mirror l).ahead h.mirror = some (d.mirror l) := by
  rw [Ideal.ahead_eq_some_iff] at hstep ⊢
  rw [mirror_of_lt hc, mirror_of_lt hd, mirror_y, mirror_y]
  cases h <;> simp only [Ideal.unit, Heading.mirror] at hstep ⊢ <;> omega

theorem ahead_of_mirror {l : UInt32} {c d : Cell} {h : Heading} (hc : c.x.toNat < l.toNat)
    (hd : d.x.toNat < l.toNat) (hstep : (c.mirror l).ahead h.mirror = some d) :
    c.ahead h = some (d.mirror l) := by
  have hback := ahead_mirror (mirror_x_lt_iff.2 hc) hd hstep
  rwa [mirror_mirror, h.mirror_mirror] at hback

end Cell

theorem Grid.contains_mirror (g : Grid) (c : Cell) :
    g.mirror.contains (c.mirror g.length) = g.contains c := by
  rw [Bool.eq_iff_iff, contains_iff, contains_iff, Cell.mirror_y]
  exact and_congr_left' Cell.mirror_x_lt_iff

theorem Grid.hasObstacle_mirror (g : Grid) (c : Cell) :
    g.mirror.hasObstacle (c.mirror g.length) = g.hasObstacle c := by
  have hinjective : Function.Injective (Cell.mirror g.length) :=
    Function.LeftInverse.injective (Cell.mirror_mirror g.length)
  exact hasObstacle_moveObstacles hinjective g c

/-! ## Walls -/

/-- A step out of the columns of the grid is refused, and the refusal names the target, whether
there is such a cell or not. -/
theorem RobotState.next_move_of_leaves {g : Grid} {p : Placement} (hp : g.contains p.cell)
    (h : ∀ d, p.cell.ahead p.heading = some d → ¬d.x.toNat < g.length.toNat) :
    ∃ a : Reflection.Target,
      (placed p).next g .move = .error (.outOfBounds a.1 a.2) ∧
      Rejection.shown a.1 = (Ideal.Pose.ofPlacement p).ahead.x ∧
      Rejection.shown a.2 = (Ideal.Pose.ofPlacement p).ahead.y := by
  cases hd : p.cell.ahead p.heading with
  | none =>
    have htarget := (Ideal.ahead_of_eq_none hp hd).2
    have hoff : ∃ x y, Rejection.offCoordinates p = .outOfBounds x y := by
      unfold Rejection.offCoordinates
      split <;> exact ⟨_, _, rfl⟩
    obtain ⟨x, y, hxy⟩ := hoff
    rw [hxy] at htarget
    obtain ⟨hx, hy⟩ := Ideal.Refusal.outside.inj htarget
    exact ⟨(x, y), (next_move_of_eq_none hd).trans (congrArg _ hxy), hx, hy⟩
  | some d =>
    have hout : g.contains d = false := by
      rw [← Bool.not_eq_true, Grid.contains_iff]
      exact fun hin => h d hd hin.1
    have hnext : (placed p).next g .move = .error (.outOfBounds (some d.x) (some d.y)) := by
      rw [next_move_of_ahead hd, Grid.enter, hout]
      rfl
    rw [← Ideal.ofPlacement_ahead hd]
    exact ⟨(some d.x, some d.y), hnext, rfl, rfl⟩

namespace Reflection

/-- How a target off the grid is named and how its reflection is: in the same row and, as a number,
in the mirrored column. So a step over a wall leads to the column beyond the other wall. A cell
beyond the last column, on which a robot is to be placed, is left where it is. -/
def Across (length : UInt32) (a b : Target) : Prop :=
  Rejection.shown b.2 = Rejection.shown a.2 ∧
    (Rejection.shown b.1 = length.toNat - 1 - Rejection.shown a.1 ∨
      (length.toNat ≤ Rejection.shown a.1 ∧ b.1 = a.1))

theorem across_mirror (l : UInt32) (c : Cell) :
    Across l (some c.x, some c.y) (some (c.mirror l).x, some (c.mirror l).y) := by
  rw [Cell.mirror_y]
  refine ⟨rfl, ?_⟩
  by_cases h : c.x.toNat < l.toNat
  · have hx := Cell.mirror_of_lt h
    left
    simp only [Rejection.shown]
    omega
  · right
    rw [Cell.mirror_of_le (Nat.not_lt.1 h)]
    exact ⟨Int.ofNat_le.2 (Nat.not_lt.1 h), rfl⟩

/-- Steps in numbers: the reflected step leads to the mirrored column. -/
theorem ahead_ofPlacement_middle {l : UInt32} {p : Placement} (h : p.cell.x.toNat < l.toNat) :
    (Ideal.Pose.ofPlacement ((middle l).placement p)).ahead.y =
        (Ideal.Pose.ofPlacement p).ahead.y ∧
      (Ideal.Pose.ofPlacement ((middle l).placement p)).ahead.x =
        l.toNat - 1 - (Ideal.Pose.ofPlacement p).ahead.x := by
  obtain ⟨c, k⟩ := p
  have hx := Cell.mirror_of_lt h
  dsimp only at h hx
  simp only [Ideal.Pose.ofPlacement, Ideal.Pose.ahead, placement, middle, Cell.mirror_y, hx]
  cases k <;> simp only [Heading.mirror, Ideal.unit, true_and] <;> omega

/-! ## Runs -/

theorem carries_mirror (g : Grid) :
    (middle g.length).Carries (Across g.length) g g.mirror where
  turn c h := by cases c <;> cases h <;> rfl
  contains := g.contains_mirror
  hasObstacle := g.hasObstacle_mirror
  off c _ := across_mirror g.length c
  move p hp := by
    have hc := (Grid.contains_iff.1 hp).1
    by_cases hstep : ∃ d, p.cell.ahead p.heading = some d ∧ d.x.toNat < g.length.toNat
    · obtain ⟨d, hd, hx⟩ := hstep
      exact Or.inl ⟨d, hd, Cell.ahead_mirror hc hx hd⟩
    · have hleaves : ∀ d, p.cell.ahead p.heading = some d → ¬d.x.toNat < g.length.toNat :=
        fun d hd hx => hstep ⟨d, hd, hx⟩
      -- a reflected step to a column of the grid would be the reflection of such a step
      have himage : ∀ d, (p.cell.mirror g.length).ahead p.heading.mirror = some d →
          ¬d.x.toNat < g.length.toNat := fun d hd hx =>
        hleaves _ (Cell.ahead_of_mirror hc hx hd) (Cell.mirror_x_lt_iff.2 hx)
      have hin : g.mirror.contains ((middle g.length).placement p).cell := by
        rw [← hp]
        exact g.contains_mirror p.cell
      obtain ⟨a, ha, hax, hay⟩ := RobotState.next_move_of_leaves hp hleaves
      obtain ⟨b, hb, hbx, hby⟩ := RobotState.next_move_of_leaves hin himage
      obtain ⟨hy, hx⟩ := ahead_ofPlacement_middle (p := p) hc
      refine Or.inr ⟨a, b, ⟨?_, Or.inl ?_⟩, ha, hb⟩
      · rw [hby, hay, hy]
      · rw [hbx, hax, hx]

/-- **Opposite walls are treated alike.** On the mirrored grid, a new robot that gets the mirrored
commands is at every step in the mirrored state. Its outcome is of the same kind: the placement that
it reports, or the obstacle that it names, is the mirrored one, and a target off the grid is named
by its number across. -/
theorem run_mirror (g : Grid) (cs : List Command) :
    List.Forall₂ ((middle g.length).Corresponds (Across g.length)) (RobotState.unplaced.run g cs)
      (RobotState.unplaced.run g.mirror (cs.map (middle g.length).command)) :=
  (carries_mirror g).run_image (RobotState.stands_unplaced g) cs

/-- A robot at the eastern wall of three columns, and its reflection at the western one. -/
example :
    let g : Grid := ⟨3, 1, [⟨1, 0⟩], by decide, by decide, by decide⟩
    let cs : List Command := [.place ⟨⟨2, 0⟩, .east⟩, .move, .flip, .move]
    (RobotState.unplaced.run g cs).map Prod.fst =
        [.applied, .rejected (.outOfBounds (some 3) (some 0)), .applied,
          .rejected (.obstacle ⟨1, 0⟩)] ∧
      (RobotState.unplaced.run g.mirror (cs.map (middle g.length).command)).map Prod.fst =
        [.applied, .rejected (.outOfBounds none (some 0)), .applied,
          .rejected (.obstacle ⟨1, 0⟩)] := by
  decide

end Reflection

end Gridbot
