import Gridbot.Proofs.Robot.Region
import Mathlib.Data.Int.ModEq

/-!
# The heading as a count

The headings are counted clockwise, and a turn adds to the count: one to the right, one less to the
left, two for a half turn, all modulo 4. Only an accepted `place` sets the heading anew. So the
heading of a robot is known from its last placing and from the numbers of turns behind it, in
whatever order they came and whatever came between them.

* `exists_last_placing`: a run with accepted placings has a last one.
* `index_apply`: what a command that is no accepted placing adds.
* `index_applyAll`: what such commands add together, by induction over them.
* `heading_of_last_placing`: the heading of a robot that started new.
-/

namespace Gridbot

/-- The quarter turns that a command makes, counted clockwise. -/
def Command.quarters : Command → Int
  | right => 1
  | left => -1
  | flip => 2
  | _ => 0

def Command.isPlacing : Command → Bool
  | place _ => true
  | _ => false

/-- None of the commands is an accepted `place`. -/
def RobotState.NoPlacing (g : Grid) (s : RobotState) (cs : List Command) : Prop :=
  ∀ e ∈ cs.zip (s.run g cs), ¬(e.1.isPlacing ∧ e.2.1 = .applied)

instance (g : Grid) (s : RobotState) (cs : List Command) : Decidable (s.NoPlacing g cs) :=
  List.decidableBAll (fun e : Command × Outcome × RobotState =>
    ¬(e.1.isPlacing ∧ e.2.1 = .applied)) (cs.zip (s.run g cs))

/-- Behind the commands `done`, the robot is placed as `r`, and by none of the commands `rest` is it
placed again. -/
structure RobotState.LastPlacing (g : Grid) (s : RobotState) (done : List Command) (r : Placement)
    (rest : List Command) : Prop where
  accepted : ((s.applyAll g done).apply g (.place r)).1 = .applied
  none_behind : (s.applyAll g (done ++ [.place r])).NoPlacing g rest

/-! ## Turns -/

theorem Heading.idxOf_all (h : Heading) : all.idxOf h = h.index := by cases h <;> rfl

/-- A turn adds its quarters. -/
theorem Heading.index_turn {c : Command} {h k : Heading} (hturn : c.turn? h = some k) :
    (k.index : Int) ≡ h.index + c.quarters [ZMOD 4] := by
  cases c <;> cases hturn <;> cases h <;> rfl

theorem Command.sum_quarters (cs : List Command) :
    (cs.map quarters).sum = cs.count right - cs.count left + 2 * cs.count flip := by
  induction cs with
  | nil => rfl
  | cons c cs ih =>
    rw [List.map_cons, List.sum_cons, ih]
    cases c <;> simp [quarters] <;> omega

namespace RobotState

variable {g : Grid} {s : RobotState} {p r : Placement} {c : Command} {cs : List Command}

/-! ## Placings -/

theorem noPlacing_cons : s.NoPlacing g (c :: cs) ↔
    ¬(c.isPlacing ∧ (s.apply g c).1 = .applied) ∧ (s.apply g c).2.NoPlacing g cs := by
  simp only [NoPlacing, run, List.zip_cons_cons, List.forall_mem_cons]

/-- The last of the accepted placings, if there are any. -/
theorem exists_last_placing (g : Grid) (s : RobotState) (cs : List Command) :
    s.NoPlacing g cs ∨
      ∃ done r rest, cs = done ++ .place r :: rest ∧ s.LastPlacing g done r rest := by
  induction cs generalizing s with
  | nil => exact Or.inl fun e he => absurd he List.not_mem_nil
  | cons c cs ih =>
    rcases ih (s.apply g c).2 with hnone | ⟨done, r, rest, rfl, hlast⟩
    · by_cases hc : c.isPlacing ∧ (s.apply g c).1 = .applied
      · cases c with
        | place r => exact Or.inr ⟨[], r, cs, rfl, hc.2, hnone⟩
        | _ => cases hc.1
      · exact Or.inl (noPlacing_cons.2 ⟨hc, hnone⟩)
    · exact Or.inr ⟨c :: done, r, rest, rfl, hlast.accepted, hlast.none_behind⟩

theorem apply_place_cases (g : Grid) (s : RobotState) (r : Placement) :
    s.apply g (.place r) = (.applied, placed r) ∨ ∃ e, s.apply g (.place r) = (.rejected e, s) := by
  cases hnext : s.next g (.place r) with
  | error e => exact Or.inr ⟨e, apply_of_error hnext⟩
  | ok t =>
    obtain ⟨-, rfl⟩ := Grid.enter_eq_ok_iff.1 ((next_place g s r).symm.trans hnext)
    exact Or.inl (apply_of_ok hnext)

theorem apply_place_of_applied (h : (s.apply g (.place r)).1 = .applied) :
    (s.apply g (.place r)).2 = placed r := by
  rcases apply_place_cases g s r with hplace | ⟨e, hplace⟩
  · rw [hplace]
  · rw [hplace] at h
    cases h

/-- A new robot that is never placed stays off the grid. -/
theorem applyAll_of_noPlacing (h : unplaced.NoPlacing g cs) :
    unplaced.applyAll g cs = unplaced := by
  induction cs with
  | nil => rfl
  | cons c cs ih =>
    obtain ⟨hc, hcs⟩ := noPlacing_cons.1 h
    have hstate : (unplaced.apply g c).2 = unplaced := by
      cases c with
      | place r =>
        rcases apply_place_cases g unplaced r with hplace | ⟨e, hplace⟩
        · exact absurd ⟨rfl, by rw [hplace]⟩ hc
        · rw [hplace]
      | _ => rfl
    rw [hstate] at hcs
    rw [applyAll, hstate, ih hcs]

/-! ## Runs without placings -/

theorem apply_move_cases (g : Grid) (p : Placement) :
    (∃ d, (placed p).apply g .move = (.applied, placed { p with cell := d })) ∨
      ∃ e, (placed p).apply g .move = (.rejected e, placed p) := by
  cases hnext : (placed p).next g .move with
  | error e => exact Or.inr ⟨e, apply_of_error hnext⟩
  | ok t =>
    rcases next_cases hnext with ⟨_, hplace, -⟩ | ⟨_, d, hp, -, -, -, rfl⟩ | ⟨_, _, -, hturn, -⟩ |
      ⟨_, -, hreport, -⟩
    · cases hplace
    · cases hp
      exact Or.inl ⟨d, apply_of_ok hnext⟩
    · cases hturn
    · cases hreport

/-- **One command.** Unless it places the robot, it adds its quarters to the heading. Turns are
never refused, and all else adds nothing, refused or not. -/
theorem index_apply (hc : ¬(c.isPlacing ∧ ((placed p).apply g c).1 = .applied)) :
    ∃ q, ((placed p).apply g c).2 = placed q ∧
      (q.heading.index : Int) ≡ p.heading.index + c.quarters [ZMOD 4] := by
  have hzero : (p.heading.index : Int) ≡ p.heading.index + 0 [ZMOD 4] := by rw [add_zero]
  cases c with
  | place r =>
    rcases apply_place_cases g (placed p) r with hplace | ⟨e, hplace⟩
    · exact absurd ⟨rfl, by rw [hplace]⟩ hc
    · exact ⟨p, by rw [hplace], hzero⟩
  | move =>
    rcases apply_move_cases g p with ⟨d, hmove⟩ | ⟨e, hmove⟩
    · exact ⟨{ p with cell := d }, by rw [hmove], hzero⟩
    · exact ⟨p, by rw [hmove], hzero⟩
  | report => exact ⟨p, rfl, hzero⟩
  | _ => exact ⟨_, rfl, Heading.index_turn rfl⟩

/-- **Many commands.** The quarters of all of them are added. -/
theorem index_applyAll (h : (placed p).NoPlacing g cs) :
    ∃ q, (placed p).applyAll g cs = placed q ∧
      (q.heading.index : Int) ≡ p.heading.index + (cs.map Command.quarters).sum [ZMOD 4] := by
  induction cs generalizing p with
  | nil => exact ⟨p, rfl, by simp⟩
  | cons c cs ih =>
    obtain ⟨hc, hcs⟩ := noPlacing_cons.1 h
    obtain ⟨o, ho, hindex⟩ := index_apply hc
    rw [ho] at hcs
    obtain ⟨q, hq, hrest⟩ := ih hcs
    refine ⟨q, by rw [applyAll, ho, hq], ?_⟩
    rw [List.map_cons, List.sum_cons, ← add_assoc]
    exact hrest.trans (hindex.add_right _)

/-- **The heading.** A robot that commands bring onto the grid was placed by one of them that was
the last to do so. Its heading has, among all headings clockwise from north, the index of the
heading that it was placed with, one more for every turn to the right behind that, one less for
every turn to the left, and two more for every half turn, modulo 4. -/
theorem heading_of_last_placing (g : Grid) (cs : List Command) (p : Placement)
    (h : unplaced.applyAll g cs = placed p) :
    (∃ done r rest, cs = done ++ .place r :: rest ∧ unplaced.LastPlacing g done r rest) ∧
    ∀ done r rest, cs = done ++ .place r :: rest → unplaced.LastPlacing g done r rest →
      (Heading.all.idxOf p.heading : Int) ≡ Heading.all.idxOf r.heading +
        rest.count .right - rest.count .left + 2 * rest.count .flip [ZMOD 4] := by
  constructor
  · rcases exists_last_placing g unplaced cs with hnone | hlast
    · rw [applyAll_of_noPlacing hnone] at h
      cases h
    · exact hlast
  · rintro done r rest rfl hlast
    have hstate : unplaced.applyAll g (done ++ [.place r]) = placed r := by
      rw [applyAll_append]
      exact apply_place_of_applied hlast.accepted
    have hrest := hlast.none_behind
    rw [hstate] at hrest
    obtain ⟨q, hq, hindex⟩ := index_applyAll hrest
    -- whatever was done before the placing no longer matters
    have hsplit : done ++ .place r :: rest = (done ++ [.place r]) ++ rest := by simp
    rw [hsplit, applyAll_append, hstate, hq] at h
    cases h
    rw [Heading.idxOf_all, Heading.idxOf_all]
    rwa [Command.sum_quarters, ← add_assoc, ← add_sub_assoc] at hindex

/-- Placed twice and refused twice, the second time behind the last placing, among turns and
moves of which one is refused. -/
theorem heading_of_last_placing_mixed :
    let g : Grid := ⟨2, 2, [⟨1, 0⟩], by decide, by decide, List.pairwise_singleton _ _⟩
    let r : Placement := ⟨⟨0, 0⟩, .east⟩
    let done : List Command := [.right, .place ⟨⟨1, 1⟩, .south⟩, .place ⟨⟨1, 0⟩, .west⟩, .left]
    let rest : List Command :=
      [.move, .left, .move, .place ⟨⟨5, 5⟩, .north⟩, .report, .left, .flip, .right, .left]
    unplaced.applyAll g (done ++ .place r :: rest) = placed ⟨⟨0, 1⟩, .east⟩ ∧
      unplaced.LastPlacing g done r rest ∧
      (Heading.all.idxOf Heading.east : Int) ≡ Heading.all.idxOf Heading.east +
        rest.count .right - rest.count .left + 2 * rest.count .flip [ZMOD 4] := by
  intro g r done rest
  have h : unplaced.applyAll g (done ++ .place r :: rest) = placed ⟨⟨0, 1⟩, .east⟩ := by decide
  have hlast : unplaced.LastPlacing g done r rest := ⟨by decide, by decide⟩
  exact ⟨h, hlast, (heading_of_last_placing g _ _ h).2 done r rest rfl hlast⟩

end RobotState

end Gridbot
