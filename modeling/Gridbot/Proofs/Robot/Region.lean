import Gridbot.Proofs.Robot.Ideal

/-!
# The region of a robot

Two open cells are joined if a path of open cells leads from one to the other, each cell next to
the one before. The region of a robot is made of the cells joined to its own. Moves and turns lead
to every cell of the region with every heading, and never out of it.

* `reachable_placed_iff`: what a new robot reaches by any commands, `place` among them.
* `within_apply`: a command keeps the robot in its region, or it is an accepted `place` on a cell
  outside.
* `exists_route`: a path is walked by turning towards each next cell and moving.
* `reachable_iff_joined`: what a robot reaches without being placed again.
-/

namespace Gridbot

/-! ## Paths -/

/-- The cells differ by one in exactly one coordinate. -/
def Cell.Adjacent (a b : Cell) : Prop :=
  (a.x = b.x ∧ (a.y.toNat + 1 = b.y.toNat ∨ b.y.toNat + 1 = a.y.toNat)) ∨
    (a.y = b.y ∧ (a.x.toNat + 1 = b.x.toNat ∨ b.x.toNat + 1 = a.x.toNat))

instance (a b : Cell) : Decidable (a.Adjacent b) := inferInstanceAs (Decidable (_ ∨ _))

/-- A path of open cells leads from `a` to the cell, each adjacent to the one before. -/
inductive Grid.Joined (g : Grid) (a : Cell) : Cell → Prop
  | here (ha : g.isOpen a) : Joined g a a
  | next {b c : Cell} (hb : Joined g a b) (hbc : b.Adjacent c) (hc : g.isOpen c) : Joined g a c

/-- The adjacent cells are those ahead in some direction. -/
theorem Cell.adjacent_iff {a b : Cell} : a.Adjacent b ↔ ∃ k, a.ahead k = some b := by
  simp only [Ideal.ahead_eq_some_iff, Adjacent, ← UInt32.toNat_inj]
  constructor
  · rintro (⟨hx, hy | hy⟩ | ⟨hy, hx | hx⟩)
    · exact ⟨.north, by simp only [Ideal.unit]; omega⟩
    · exact ⟨.south, by simp only [Ideal.unit]; omega⟩
    · exact ⟨.east, by simp only [Ideal.unit]; omega⟩
    · exact ⟨.west, by simp only [Ideal.unit]; omega⟩
  · rintro ⟨k, h⟩
    cases k <;> simp only [Ideal.unit] at h <;> omega

namespace RobotState

/-! ## Lists of commands -/

/-- The state after a list of commands, the refused ones being of no effect. -/
def applyAll (g : Grid) (s : RobotState) : List Command → RobotState
  | [] => s
  | c :: cs => applyAll g (s.apply g c).2 cs

theorem applyAll_append (g : Grid) (s : RobotState) (cs ds : List Command) :
    s.applyAll g (cs ++ ds) = (s.applyAll g cs).applyAll g ds := by
  induction cs generalizing s with
  | nil => rfl
  | cons c cs ih => exact ih (s.apply g c).2

/-- Some commands bring a new robot to the state. -/
def Reachable (g : Grid) (s : RobotState) : Prop := ∃ cs, unplaced.applyAll g cs = s

theorem stands_applyAll {g : Grid} {s : RobotState} (hs : Stands g s) (cs : List Command) :
    Stands g (s.applyAll g cs) := by
  induction cs generalizing s with
  | nil => exact hs
  | cons c cs ih => exact ih (stands_apply hs c)

theorem Reachable.stands {g : Grid} {s : RobotState} (h : Reachable g s) : Stands g s := by
  obtain ⟨cs, rfl⟩ := h
  exact stands_applyAll (stands_unplaced g) cs

/-- A robot gets to every open cell, and to no other. -/
theorem reachable_placed_iff {g : Grid} {p : Placement} :
    Reachable g (placed p) ↔ g.isOpen p.cell := by
  constructor
  · exact fun h => stands_placed.1 h.stands
  · intro h
    have hnext : unplaced.next g (.place p) = .ok ⟨placed p, none⟩ :=
      Grid.enter_eq_ok_iff.2 ⟨h, rfl⟩
    exact ⟨[.place p], by rw [applyAll, applyAll, apply_of_ok hnext]⟩

/-! ## Staying in the region -/

/-- The robot is on a cell that is joined to `a`. -/
def Within (g : Grid) (a : Cell) (s : RobotState) : Prop := ∃ p, s = placed p ∧ g.Joined a p.cell

/-- The command is a `place`, it is accepted, and its cell is not joined to `a`. -/
def Escapes (g : Grid) (a : Cell) (s : RobotState) (c : Command) : Prop :=
  ∃ r, c = .place r ∧ (s.apply g c).1 = .applied ∧ ¬g.Joined a r.cell

/-- **One command.** It keeps the robot in its region, unless it places the robot elsewhere. -/
theorem within_apply {g : Grid} {a : Cell} {s : RobotState} (hs : Within g a s) (c : Command) :
    Within g a (s.apply g c).2 ∨ Escapes g a s c := by
  cases hn : s.next g c with
  | error r =>
    rw [apply_of_error hn]
    exact Or.inl hs
  | ok t =>
    obtain ⟨p, rfl, hp⟩ := hs
    rcases next_cases hn with ⟨r, rfl, hr, rfl⟩ | ⟨_, d, hq, rfl, hd, ho, rfl⟩ |
      ⟨_, k, hq, -, rfl⟩ | ⟨_, hq, rfl, rfl⟩
    · by_cases hj : g.Joined a r.cell
      · rw [apply_of_ok hn]
        exact Or.inl ⟨r, rfl, hj⟩
      · exact Or.inr ⟨r, rfl, by rw [apply_of_ok hn], hj⟩
    · cases hq
      rw [apply_of_ok hn]
      exact Or.inl ⟨_, rfl, .next hp (Cell.adjacent_iff.2 ⟨_, hd⟩) ho⟩
    · cases hq
      rw [apply_of_ok hn]
      exact Or.inl ⟨_, rfl, hp⟩
    · cases hq
      exact Or.inl ⟨p, rfl, hp⟩

/-- **Many commands.** A robot that ends elsewhere was placed there in between. -/
theorem exists_escape {g : Grid} {a : Cell} {s : RobotState} (hs : Within g a s)
    {cs : List Command} (hcs : ¬Within g a (s.applyAll g cs)) :
    ∃ done c rest, cs = done ++ c :: rest ∧ Escapes g a (s.applyAll g done) c := by
  induction cs generalizing s with
  | nil => exact absurd hs hcs
  | cons c cs ih =>
    rcases within_apply hs c with h | h
    · obtain ⟨done, d, rest, rfl, hd⟩ := ih h hcs
      exact ⟨c :: done, d, rest, rfl, hd⟩
    · exact ⟨[], c, cs, rfl, h⟩

/-- A robot found on a cell that is not joined to `a` was placed outside the region in between. -/
theorem exists_place_of_not_joined {g : Grid} {a : Cell} {s : RobotState} (hs : Within g a s)
    {cs : List Command} {q : Placement} (hcs : s.applyAll g cs = placed q)
    (hq : ¬g.Joined a q.cell) :
    ∃ done r rest, cs = done ++ .place r :: rest ∧
      ((s.applyAll g done).apply g (.place r)).1 = .applied ∧ ¬g.Joined a r.cell := by
  have hout : ¬Within g a (s.applyAll g cs) := by
    rw [hcs]
    rintro ⟨_, he, hj⟩
    cases he
    exact hq hj
  obtain ⟨done, _, rest, rfl, r, rfl, happlied, hr⟩ := exists_escape hs hout
  exact ⟨done, r, rest, rfl, happlied, hr⟩

/-! ## Walking through the region -/

/-- The turns from one heading to another. -/
def turns (h k : Heading) : List Command :=
  if h = k then []
  else if h.left = k then [.left]
  else if h.right = k then [.right]
  else [.flip]

theorem applyAll_turns (g : Grid) (c : Cell) (h k : Heading) :
    (placed ⟨c, h⟩).applyAll g (turns h k) = placed ⟨c, k⟩ := by
  cases h <;> cases k <;> rfl

theorem place_not_mem_turns (h k : Heading) (r : Placement) : .place r ∉ turns h k := by
  cases h <;> cases k <;> simp [turns, Heading.left, Heading.right]

theorem apply_move_of_open {g : Grid} {c d : Cell} {k : Heading} (hd : c.ahead k = some d)
    (ho : g.isOpen d) : (placed ⟨c, k⟩).apply g .move = (.applied, placed ⟨d, k⟩) := by
  apply apply_of_ok
  rw [next_move_of_ahead hd]
  exact Grid.enter_eq_ok_iff.2 ⟨ho, rfl⟩

/-- Every cell of the region is reached, with any heading. -/
theorem exists_route {g : Grid} {p : Placement} {c : Cell} (h : g.Joined p.cell c) (k : Heading) :
    ∃ cs, (∀ r, .place r ∉ cs) ∧ (placed p).applyAll g cs = placed ⟨c, k⟩ := by
  induction h generalizing k with
  | here _ => exact ⟨turns p.heading k, place_not_mem_turns _ _, applyAll_turns g p.cell _ _⟩
  | @next b c _ hbc hc ih =>
    -- come to the cell before with the heading of the last step, which leaves turns at the end
    obtain ⟨ahead, hahead⟩ := Cell.adjacent_iff.1 hbc
    obtain ⟨cs, hplace, hcs⟩ := ih ahead
    refine ⟨cs ++ .move :: turns ahead k, fun r => ?_, ?_⟩
    · simp [hplace r, place_not_mem_turns]
    · rw [applyAll_append, hcs, applyAll, apply_move_of_open hahead hc, applyAll_turns]

/-- **Reachability is connectedness.** From an open cell, moves, turns and reports lead exactly to
the placements on cells joined to it. A robot that is found anywhere else was placed there in
between, by a `place` that was accepted. -/
theorem reachable_iff_joined (g : Grid) (p : Placement) (hp : g.isOpen p.cell) (q : Placement) :
    ((∃ cs : List Command, (∀ r, .place r ∉ cs) ∧ (placed p).applyAll g cs = placed q) ↔
      g.Joined p.cell q.cell) ∧
    (∀ cs : List Command, (placed p).applyAll g cs = placed q → ¬g.Joined p.cell q.cell →
      ∃ done r rest, cs = done ++ .place r :: rest ∧
        (((placed p).applyAll g done).apply g (.place r)).1 = .applied ∧
        ¬g.Joined p.cell r.cell) := by
  have hwithin : Within g p.cell (placed p) := ⟨p, rfl, .here hp⟩
  refine ⟨⟨?_, fun h => exists_route h q.heading⟩, fun cs => exists_place_of_not_joined hwithin⟩
  rintro ⟨cs, hplace, hcs⟩
  refine Classical.byContradiction fun hq => ?_
  obtain ⟨done, r, rest, rfl, -⟩ := exists_place_of_not_joined hwithin hcs hq
  exact hplace r (by simp)

/-- On a board of two rows, a robot gets around the obstacle in front of it. -/
theorem reachable_around_obstacle :
    let g : Grid := ⟨3, 2, [⟨1, 0⟩], by decide, by decide, List.pairwise_singleton _ _⟩
    let p : Placement := ⟨⟨0, 0⟩, .east⟩
    let q : Placement := ⟨⟨2, 0⟩, .north⟩
    g.isOpen p.cell ∧ g.Joined p.cell q.cell ∧
      ∃ cs : List Command, (∀ r, .place r ∉ cs) ∧ (placed p).applyAll g cs = placed q := by
  intro g p q
  have hp : g.isOpen p.cell := by decide
  have h1 : g.Joined p.cell ⟨0, 1⟩ := .next (.here hp) (by decide) (by decide)
  have h2 : g.Joined p.cell ⟨1, 1⟩ := .next h1 (by decide) (by decide)
  have h3 : g.Joined p.cell ⟨2, 1⟩ := .next h2 (by decide) (by decide)
  have h4 : g.Joined p.cell q.cell := .next h3 (by decide) (by decide)
  exact ⟨hp, h4, (reachable_iff_joined g p hp q).1.2 h4⟩

end RobotState

end Gridbot
