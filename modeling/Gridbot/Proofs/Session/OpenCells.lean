import Gridbot.Proofs.Session.Checkpoint

/-!
# What reports tell of a grid

Reports tell which cells of a grid are open and nothing more. Why a cell is not open, whether it is
blocked or off the grid, makes a difference to the refusals that are noted but to no robot. So a
board that a wall of obstacles cuts down to a smaller one reports like the smaller board.

* `next_of_isOpen`: a command that a grid accepts is accepted, and does the same, where at least the
  same cells are open.
* `reports_inquiry`: two lines that find out about one cell.
* `outputs_eq_iff_isOpen_eq`: two grids report alike for all lines exactly if the same cells are
  open, and their robots are then at the same place after every line.
-/

namespace Gridbot

namespace RobotState

/-! ## Grids with the same open cells -/

theorem next_of_isOpen {g k : Grid} (hopen : ∀ c, g.isOpen c → k.isOpen c) {s : RobotState}
    {c : Command} {t : Transition} (h : s.next g c = .ok t) : s.next k c = .ok t := by
  rcases next_cases h with ⟨p, rfl, ho, rfl⟩ | ⟨p, d, rfl, rfl, hd, ho, rfl⟩ |
    ⟨p, j, rfl, hturn, rfl⟩ | ⟨p, rfl, rfl, rfl⟩
  · rw [next_place]
    exact Grid.enter_eq_ok_iff.2 ⟨hopen _ ho, rfl⟩
  · rw [next_move_of_ahead hd]
    exact Grid.enter_eq_ok_iff.2 ⟨hopen _ ho, rfl⟩
  · cases c <;> cases hturn <;> rfl
  · rfl

section
variable {g k : Grid} (hopen : ∀ c, g.isOpen c = k.isOpen c)
include hopen

/-- A line does the same to a robot on either grid, though it may be refused for another reason. -/
theorem obey_of_isOpen_eq (s : RobotState) (line : String) : s.obey g line = s.obey k line := by
  unfold obey
  cases Command.parse (Text.trim line) with
  | error e => rfl
  | ok c =>
    dsimp only
    cases hg : s.next g c with
    | ok t => rw [next_of_isOpen (fun c hc => hopen c ▸ hc) hg]
    | error r =>
      cases hk : s.next k c with
      | error q => rfl
      | ok t =>
        rw [next_of_isOpen (fun c hc => hopen c ▸ hc) hk] at hg
        cases hg

theorem reports_of_isOpen_eq (s : RobotState) (lines : List String) :
    s.reports g lines = s.reports k lines := by
  induction lines generalizing s with
  | nil => rfl
  | cons line rest ih => rw [reports, reports, obey_of_isOpen_eq hopen, ih]

end

/-! ## Finding out about a cell -/

/-- Two lines that find out whether a cell is open. -/
def inquiry (c : Cell) : List String := [(Command.place ⟨c, .north⟩).text, Command.report.text]

theorem reports_inquiry (g : Grid) (c : Cell) :
    unplaced.reports g (inquiry c) = if g.isOpen c then [⟨c, .north⟩] else [] := by
  have hplace : Command.parse (Text.trim (Command.place ⟨c, .north⟩).text) =
      .ok (.place ⟨c, .north⟩) := Command.parse_trim_of_padded (Text.Padded.refl _)
  have hreport : Command.parse (Text.trim Command.report.text) = .ok .report :=
    Command.parse_trim_of_padded (Text.Padded.refl _)
  simp only [inquiry, reports, obey, hplace, hreport, next_place]
  cases ho : g.isOpen c with
  | true =>
    rw [Grid.enter_eq_ok_iff.2 ⟨ho, rfl⟩]
    rfl
  | false =>
    cases he : g.enter ⟨c, .north⟩ with
    | error r => rfl
    | ok t =>
      have hopen := (Grid.enter_eq_ok_iff.1 he).1
      rw [ho] at hopen
      cases hopen

theorem isOpen_eq_of_inquiry {g k : Grid} {c : Cell}
    (h : reportBytes (unplaced.reports g (inquiry c)) =
      reportBytes (unplaced.reports k (inquiry c))) : g.isOpen c = k.isOpen c := by
  have hpos : reportBytes [⟨c, .north⟩] ≠ .empty := by
    intro he
    have hsize := size_reportLine_pos ⟨c, .north⟩
    rw [reportBytes, reportBytes, ByteArray.append_empty] at he
    rw [he] at hsize
    exact absurd hsize (Nat.lt_irrefl 0)
  rw [reports_inquiry, reports_inquiry] at h
  cases hg : g.isOpen c <;> cases hk : k.isOpen c
  · rfl
  · rw [hg, hk] at h
    exact absurd h.symm hpos
  · rw [hg, hk] at h
    exact absurd h hpos
  · rfl

end RobotState

/-! ## Batches -/

/-- What a step shows of the robot: the line, and where the robot is after it. -/
def Step.stand (e : Step) : String × RobotState := (e.line, e.session.robot)

namespace Session

/-- Batches on sinks without a limit go through the same states if the same cells are open. -/
theorem batchSteps_stand {s t : Session} (hopen : ∀ c, s.grid.isOpen c = t.grid.isOpen c)
    (hrobot : s.robot = t.robot) (hs : s.sink.capacity = none) (ht : t.sink.capacity = none)
    (lines : List String) :
    (s.batchSteps lines).map Step.stand = (t.batchSteps lines).map Step.stand := by
  induction lines generalizing s t with
  | nil => rfl
  | cons line rest ih =>
    have hafter : (s.executeLine line).1.robot = (t.executeLine line).1.robot := by
      rw [executeLine_robot, executeLine_robot, hrobot, RobotState.obey_of_isOpen_eq hopen]
    have hrest := ih (s := (s.executeLine line).1) (t := (t.executeLine line).1)
      (by rwa [executeLine_grid, executeLine_grid]) hafter
      (by rw [executeLine_capacity, hs]) (by rw [executeLine_capacity, ht])
    rw [batchSteps, batchSteps, executeLine_snd_of_unlimited hs, executeLine_snd_of_unlimited ht]
    simp only [List.map_cons, Step.stand, hafter]
    exact congrArg _ hrest

/-- A batch on a sink without a limit comes to its last line and writes all reports. -/
theorem completed_of_unlimited (g : Grid) (refusesFlush : Bool) (lines : List String) :
    Completed g none refusesFlush lines ((fresh g none refusesFlush).runLines lines) :=
  completed_of_fits refusesFlush trivial

/-- **Open cells are all that reports tell.** On sinks without a limit, new sessions on two grids
write the same for every batch of lines exactly if the same cells are open on both; and then their
robots are in the same state after every line, to the last. -/
theorem outputs_eq_iff_isOpen_eq (g k : Grid) (gRefuses kRefuses : Bool) :
    ((∀ lines, ((fresh g none gRefuses).runLines lines).1.sink.bytes =
        ((fresh k none kRefuses).runLines lines).1.sink.bytes) ↔
      ∀ c, g.isOpen c = k.isOpen c) ∧
    ((∀ c, g.isOpen c = k.isOpen c) → ∀ lines,
      ((fresh g none gRefuses).batchSteps lines).map Step.stand =
        ((fresh k none kRefuses).batchSteps lines).map Step.stand ∧
      ((fresh g none gRefuses).batchSteps lines).map Step.line = lines) := by
  have hbytes : ∀ g refusesFlush lines, ((fresh g none refusesFlush).runLines lines).1.sink.bytes =
      reportBytes (RobotState.unplaced.reports g lines) :=
    fun g refusesFlush lines => (completed_of_unlimited g refusesFlush lines).bytes
  simp only [hbytes]
  refine ⟨⟨?_, ?_⟩, ?_⟩
  · exact fun h c => RobotState.isOpen_eq_of_inquiry (h (RobotState.inquiry c))
  · exact fun hopen lines => by rw [RobotState.reports_of_isOpen_eq hopen]
  · intro hopen lines
    refine ⟨?_, (completed_of_unlimited g gRefuses lines).carriedOut⟩
    exact batchSteps_stand (s := fresh g none gRefuses) (t := fresh k none kRefuses) hopen rfl rfl
      rfl lines

/-- An obstacle in the last column is, to reports, the edge of a smaller board: the robot is refused
for another reason and stays where it is. -/
theorem outputs_eq_iff_isOpen_eq_wall :
    let g : Grid := ⟨2, 1, [⟨1, 0⟩], by decide, by decide, by decide⟩
    let k : Grid := ⟨1, 1, [], by decide, by decide, by decide⟩
    let lines := ["PLACE 0,0,EAST", "MOVE", "REPORT"]
    let s := fresh g none false
    let t := fresh k none false
    (∀ c, g.isOpen c = k.isOpen c) ∧
    (s.runLines lines).1.sink.bytes = (t.runLines lines).1.sink.bytes ∧
    (s.batchSteps lines).map Step.stand = (t.batchSteps lines).map Step.stand ∧
    (s.runLines lines).1.log ≠ (t.runLines lines).1.log := by
  intro g k lines s t
  have hopen : ∀ c, g.isOpen c = k.isOpen c := by
    intro c
    rw [Bool.eq_iff_iff, Grid.isOpen_iff, Grid.isOpen_iff, Grid.contains_iff, Grid.contains_iff,
      Grid.hasObstacle_iff, Grid.hasObstacle_iff]
    simp only [g, k, List.mem_singleton, List.not_mem_nil, Cell.ext_iff_toNat, UInt32.reduceToNat,
      not_false_eq_true, and_true]
    omega
  obtain ⟨houtput, hstand⟩ := outputs_eq_iff_isOpen_eq g k false false
  exact ⟨hopen, houtput.2 hopen lines, (hstand hopen lines).1, by decide +kernel⟩

end Session

end Gridbot
