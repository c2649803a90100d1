import Gridbot.Proofs.Session.Dialogue

/-!
# The cells that a session probes

A grid is asked about one cell at a time: that of a `place`, or the one ahead of a robot that moves.
All that a session shows of its grid, besides the dimensions, is whether these cells are blocked; and
a cell off the grid is refused before anyone asks for an obstacle on it.

* `next_of_agreeOn`: a command does the same on grids that agree on the cell it leads to.
* `feed_onGrid`: so does a session on grids that agree on all cells it probes on the first of them,
  by induction over its lines.
* `feed_depends_on_probes`: this for grids built from lists of cells.
-/

namespace Gridbot

/-! ## Probes -/

/-- The cell that a command leads to, if it leads to one. -/
def RobotState.target? : RobotState → Command → Option Cell
  | _, .place p => some p.cell
  | .placed p, .move => p.cell.ahead p.heading
  | _, _ => none

/-- The cell that the command of a line leads to. -/
def RobotState.probe? (s : RobotState) (line : String) : Option Cell :=
  match Command.parse (Text.trim line) with
  | .error _ => none
  | .ok c => s.target? c

/-- The cells that the lines of steps lead to, the first of them from a robot in state `s`. -/
def probes (s : RobotState) : List Step → List Cell
  | [] => []
  | e :: rest => (s.probe? e.line).toList ++ probes e.session.robot rest

/-- The grids have the same dimensions, and they block the same of those `cells` that lie on
them. -/
structure Grid.AgreeOn (g k : Grid) (cells : List Cell) : Prop where
  length : g.length = k.length
  width : g.width = k.width
  hasObstacle : ∀ c ∈ cells, g.contains c → g.hasObstacle c = k.hasObstacle c

/-! ## One command -/

namespace Grid.AgreeOn

theorem mono {g k : Grid} {cells fewer : List Cell} (h : g.AgreeOn k cells)
    (hsub : fewer ⊆ cells) : g.AgreeOn k fewer :=
  ⟨h.length, h.width, fun c hc => h.hasObstacle c (hsub hc)⟩

theorem left {g k : Grid} {xs ys : List Cell} (h : g.AgreeOn k (xs ++ ys)) : g.AgreeOn k xs :=
  h.mono (List.subset_append_left xs ys)

theorem right {g k : Grid} {xs ys : List Cell} (h : g.AgreeOn k (xs ++ ys)) : g.AgreeOn k ys :=
  h.mono (List.subset_append_right xs ys)

theorem contains {g k : Grid} {cells : List Cell} (h : g.AgreeOn k cells) (c : Cell) :
    k.contains c = g.contains c := by
  unfold Grid.contains
  rw [h.length, h.width]

theorem enter {g k : Grid} {p : Placement} (h : g.AgreeOn k [p.cell]) : k.enter p = g.enter p := by
  unfold Grid.enter
  rw [h.contains]
  cases hc : g.contains p.cell with
  | false => rfl
  | true => rw [h.hasObstacle p.cell (List.mem_singleton_self _) hc]

end Grid.AgreeOn

/-- Grids built from two lists of cells agree where the lists do. -/
theorem Grid.agreeOn_of_ofCells? {l w : UInt32} {xs ys cells : List Cell} {g k : Grid}
    (hg : Grid.ofCells? l w xs = .ok g) (hk : Grid.ofCells? l w ys = .ok k)
    (h : ∀ c ∈ cells, g.contains c → (c ∈ xs ↔ c ∈ ys)) : g.AgreeOn k cells := by
  obtain ⟨hgl, hgw, hgo⟩ := Grid.ofCells?_eq_ok_iff.1 hg
  obtain ⟨hkl, hkw, hko⟩ := Grid.ofCells?_eq_ok_iff.1 hk
  refine ⟨hgl.trans hkl.symm, hgw.trans hkw.symm, fun c hc hin => ?_⟩
  rw [Bool.eq_iff_iff, hasObstacle_iff, hasObstacle_iff, hgo, hko]
  exact h c hc hin

namespace RobotState

theorem target?_move (p : Placement) : (placed p).target? .move = p.cell.ahead p.heading := rfl

theorem next_of_agreeOn {g k : Grid} {s : RobotState} {c : Command}
    (h : g.AgreeOn k (s.target? c).toList) : s.next k c = s.next g c := by
  cases c with
  | place p =>
    rw [next_place, next_place]
    cases s <;> exact h.enter
  | move =>
    cases s with
    | unplaced => rfl
    | placed p =>
      rw [target?_move] at h
      cases hd : p.cell.ahead p.heading with
      | none => rw [next_move_of_eq_none hd, next_move_of_eq_none hd]
      | some d =>
        rw [hd] at h
        rw [next_move_of_ahead hd, next_move_of_ahead hd]
        exact h.enter
  | _ => cases s <;> rfl

theorem apply_of_agreeOn {g k : Grid} {s : RobotState} {c : Command}
    (h : g.AgreeOn k (s.target? c).toList) : s.apply k c = s.apply g c := by
  unfold apply
  rw [next_of_agreeOn h]

theorem respond_of_agreeOn {g k : Grid} {s : RobotState} {line : String}
    (h : g.AgreeOn k (s.probe? line).toList) : s.respond k line = s.respond g line := by
  unfold probe? at h
  unfold respond
  dsimp only
  cases hc : Command.parse (Text.trim line) with
  | error e => rfl
  | ok c =>
    rw [hc] at h
    dsimp only at h ⊢
    rw [apply_of_agreeOn h]

theorem probe?_trim (s : RobotState) (line : String) : s.probe? (Text.trim line) = s.probe? line := by
  unfold probe?
  rw [Text.trim_trim]

end RobotState

/-! ## One line -/

namespace Session

/-- The session with another grid. -/
def onGrid (s : Session) (k : Grid) : Session := { s with grid := k }

/-- On a grid that agrees on the cell that the line probes, the line does the same. -/
theorem executeLine_onGrid {s : Session} {k : Grid} {line : String}
    (h : s.grid.AgreeOn k (s.robot.probe? line).toList) :
    (s.onGrid k).executeLine line = ((s.executeLine line).1.onGrid k, (s.executeLine line).2) := by
  have hrespond := RobotState.respond_of_agreeOn h
  obtain ⟨g, robot, log, sink⟩ := s
  unfold onGrid executeLine
  dsimp only at hrespond ⊢
  rw [hrespond]
  cases (robot.respond g line).result.report? <;> rfl

theorem flush_onGrid (s : Session) (k : Grid) :
    (s.onGrid k).flush = (s.flush.1.onGrid k, s.flush.2) := rfl

theorem leave_onGrid (s : Session) (k : Grid) :
    (s.onGrid k).leave = (s.leave.1.onGrid k, s.leave.2) := rfl

theorem handle_onGrid {s : Session} {k : Grid} {line : String}
    (h : s.grid.AgreeOn k (s.robot.probe? line).toList) :
    (s.onGrid k).handle line = ((s.handle line).1.onGrid k, (s.handle line).2) := by
  unfold handle
  rw [executeLine_onGrid h]
  generalize s.executeLine line = r
  obtain ⟨t, r⟩ := r
  cases r with
  | error e => rfl
  | ok r =>
    dsimp only
    rw [flush_onGrid]
    generalize t.flush = f
    obtain ⟨t, f⟩ := f
    cases f <;> rfl

theorem react_onGrid_of_closes {a : Arrival} (ha : a.closes) (s : Session) (k : Grid) :
    (s.onGrid k).react a = ((s.react a).1.onGrid k, (s.react a).2) := by
  cases a with
  | line text => rw [react_exit ha, react_exit ha, leave_onGrid]
  | _ => rfl

theorem react_onGrid {s : Session} {k : Grid} {text : String}
    (h : s.grid.AgreeOn k (s.robot.probe? text).toList) :
    (s.onGrid k).react (.line text) =
      ((s.react (.line text)).1.onGrid k, (s.react (.line text)).2) := by
  unfold react
  dsimp only
  split
  · exact leave_onGrid s k
  · apply handle_onGrid
    rwa [RobotState.probe?_trim]

end Session

/-! ## Whole runs -/

/-- The step with its session on another grid. -/
def Step.onGrid (k : Grid) (e : Step) : Step := { e with session := e.session.onGrid k }

/-- The run with all its sessions on another grid. -/
def Run.onGrid (k : Grid) (r : Run) : Run :=
  ⟨r.steps.map (Step.onGrid k), r.session.onGrid k, r.result⟩

namespace Session

theorem feed_singly_onGrid {s : Session} {k : Grid} {lines : List String}
    (h : s.grid.AgreeOn k (probes s.robot (s.singleSteps lines))) :
    (s.onGrid k).feed (.singly lines) = (s.feed (.singly lines)).onGrid k := by
  induction lines generalizing s with
  | nil => rfl
  | cons line rest ih =>
    rw [singleSteps, probes] at h
    have hline := executeLine_onGrid h.left
    have hrest := h.right
    rw [← executeLine_grid s line] at hrest
    obtain ⟨hsteps, hlast, -⟩ := Run.mk.inj (ih hrest)
    simp only [feed, Run.onGrid, Step.onGrid, singleSteps, carry, hline, List.map_cons, hsteps,
      hlast]

theorem feed_batch_onGrid {s : Session} {k : Grid} {lines : List String}
    (h : s.grid.AgreeOn k (probes s.robot (s.batchSteps lines))) :
    (s.onGrid k).feed (.batch lines) = (s.feed (.batch lines)).onGrid k := by
  induction lines generalizing s with
  | nil => rfl
  | cons line rest ih =>
    rw [batchSteps, probes] at h
    have hline := executeLine_onGrid h.left
    have hrest := h.right
    rw [← executeLine_grid s line] at hrest
    cases hr : (s.executeLine line).2 with
    | error e =>
      have hk : ((s.onGrid k).executeLine line).2 = .error e := by rw [hline, hr]
      simp only [feed, Run.onGrid, Step.onGrid, batchSteps, runLines_of_error hr,
        runLines_of_error hk, hline, hr, List.map_cons, List.map_nil]
    | ok r =>
      have hk : ((s.onGrid k).executeLine line).2 = .ok r := by rw [hline, hr]
      rw [hr] at hrest
      obtain ⟨hsteps, hlast, hresult⟩ := Run.mk.inj (ih hrest)
      simp only [feed, Run.onGrid, Step.onGrid, batchSteps, runLines_of_ok hr, runLines_of_ok hk,
        hline, hr, List.map_cons, hsteps, hlast, hresult]

theorem feed_dialogue_onGrid {s : Session} {k : Grid} {arrivals : List Arrival}
    (h : s.grid.AgreeOn k (probes s.robot (s.dialogueSteps arrivals))) :
    (s.onGrid k).feed (.dialogue arrivals) = (s.feed (.dialogue arrivals)).onGrid k := by
  induction arrivals generalizing s with
  | nil => rfl
  | cons a rest ih =>
    cases ha : a.closes with
    | true =>
      obtain ⟨t, result, ht, -⟩ := react_of_closes ha s
      have hk : (s.onGrid k).react a = (t.onGrid k, .ends result) := by
        rw [react_onGrid_of_closes ha, ht]
      simp only [feed, Run.onGrid, dialogueSteps_of_closes ha, converse_of_ends ht,
        converse_of_ends hk, List.map_nil]
    | false =>
      obtain ⟨text, rfl, hx⟩ := exists_line_of_not_closes ha
      rw [dialogueSteps, if_neg hx, probes] at h
      have hreact := react_onGrid h.left
      have hgrid := react_line_grid (s := s) hx
      obtain ⟨t, progress, hr⟩ : ∃ t progress, s.react (.line text) = (t, progress) :=
        ⟨_, _, rfl⟩
      have htrim : s.grid.AgreeOn k (s.robot.probe? (Text.trim text)).toList := by
        rw [RobotState.probe?_trim]
        exact h.left
      have hline := executeLine_onGrid htrim
      have hrest := h.right
      rw [hr] at hreact hgrid hrest
      rw [← hgrid] at hrest
      cases progress with
      | ends result =>
        simp only [feed, Run.onGrid, Step.onGrid, dialogueSteps, if_neg hx, converse_of_ends hr,
          converse_of_ends hreact, hline, hr, hreact, List.map_cons, List.map_nil]
      | goesOn =>
        obtain ⟨hsteps, hlast, hresult⟩ := Run.mk.inj (ih hrest)
        simp only [feed, Run.onGrid, Step.onGrid, dialogueSteps, if_neg hx, converse_of_goesOn hr,
          converse_of_goesOn hreact, hline, hr, hreact, List.map_cons, hsteps, hlast, hresult]

/-- **Sessions on two grids.** However its lines come, a session does the same on another grid that
agrees on the cells it probes. -/
theorem feed_onGrid {s : Session} {k : Grid} {feed : Feed}
    (h : s.grid.AgreeOn k (probes s.robot (s.feed feed).steps)) :
    (s.onGrid k).feed feed = (s.feed feed).onGrid k := by
  cases feed with
  | singly lines => exact feed_singly_onGrid h
  | batch lines => exact feed_batch_onGrid h
  | dialogue arrivals => exact feed_dialogue_onGrid h

theorem start_onGrid {g k : Grid} {cells : List Cell} (h : g.AgreeOn k cells) (sink : Sink) :
    (start g sink).onGrid k = start k sink := by
  unfold start onGrid
  rw [h.length, h.width]

/-- **Only the probed cells count.** Let two grids of the same dimensions be built from lists of
cells. If the lists agree on the cells on the grid that a new session on the first probes, then the
session does the same on the second: its steps, its end and its result differ in the grid alone. So
if the lists agree on all cells on the grid, every session does the same, whatever else, how often
and in which order they list. -/
theorem feed_depends_on_probes {l w : UInt32} {xs ys : List Cell} {g k : Grid}
    (hg : Grid.ofCells? l w xs = .ok g) (hk : Grid.ofCells? l w ys = .ok k) (sink : Sink) :
    (∀ feed : Feed,
      (∀ c ∈ probes .unplaced ((start g sink).feed feed).steps,
        g.contains c → (c ∈ xs ↔ c ∈ ys)) →
      (start k sink).feed feed = ((start g sink).feed feed).onGrid k) ∧
    ((∀ c, g.contains c → (c ∈ xs ↔ c ∈ ys)) →
      ∀ feed : Feed, (start k sink).feed feed = ((start g sink).feed feed).onGrid k) := by
  have hprobes : ∀ feed : Feed,
      (∀ c ∈ probes .unplaced ((start g sink).feed feed).steps,
        g.contains c → (c ∈ xs ↔ c ∈ ys)) →
      (start k sink).feed feed = ((start g sink).feed feed).onGrid k := by
    intro feed h
    have hagree := Grid.agreeOn_of_ofCells? hg hk h
    rw [← start_onGrid hagree]
    exact feed_onGrid hagree
  exact ⟨hprobes, fun h feed => hprobes feed fun c _ => h c⟩

/-- A robot runs into the obstacle that two grids share, and is refused a cell off the grid that only
one of them lists. -/
theorem feed_depends_on_probes_blocked :
    let xs : List Cell := [⟨2, 3⟩, ⟨9, 9⟩, ⟨2, 3⟩]
    let ys : List Cell := [⟨4, 4⟩, ⟨7, 0⟩, ⟨2, 3⟩]
    let g : Grid := ⟨5, 5, [⟨2, 3⟩, ⟨9, 9⟩], by decide, by decide, by decide⟩
    let k : Grid := ⟨5, 5, [⟨2, 3⟩, ⟨4, 4⟩, ⟨7, 0⟩], by decide, by decide, by decide⟩
    let feed : Feed := .batch ["PLACE 2,2,NORTH", "MOVE", "PLACE 7,0,EAST", "REPORT"]
    Grid.ofCells? 5 5 xs = .ok g ∧ Grid.ofCells? 5 5 ys = .ok k ∧
    probes .unplaced ((start g {}).feed feed).steps = [⟨2, 2⟩, ⟨2, 3⟩, ⟨7, 0⟩] ∧
    (start k {}).feed feed = ((start g {}).feed feed).onGrid k := by
  intro xs ys g k feed
  have hg : Grid.ofCells? 5 5 xs = .ok g := by rfl
  have hk : Grid.ofCells? 5 5 ys = .ok k := by rfl
  have hprobes : probes .unplaced ((start g {}).feed feed).steps = [⟨2, 2⟩, ⟨2, 3⟩, ⟨7, 0⟩] := by
    decide +kernel
  refine ⟨hg, hk, hprobes, (feed_depends_on_probes hg hk {}).1 feed ?_⟩
  rw [hprobes]
  decide

end Session

end Gridbot
