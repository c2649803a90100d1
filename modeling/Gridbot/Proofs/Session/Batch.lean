import Gridbot.Proofs.Session.Steps

/-!
# Batches on a sink

A batch writes the reports of the course of its lines, and the sink takes them as a stream. If the
whole stream fits, the batch comes to its end and flushes once. If not, it stops at the first
report that ends beyond the capacity: the sink is then full to the byte, nothing is flushed, and
no later line leaves a trace.

* `runLines_append_of_fits`: a batch is at each line where a session that goes on would be, as
  long as the reports fit.
* `exists_first_unfit`: where the reports first do not fit.
* `runLines_reports`: how a batch ends.
-/

namespace Gridbot

namespace Session

/-! ## The first line of a batch -/

section
variable {σ : Type} [Output σ] {s : Session σ} {line : String}

theorem runLines_of_ok {r : LineResult} (h : (s.executeLine line).2 = .ok r) (rest : List String) :
    s.runLines (line :: rest) = (s.executeLine line).1.runLines rest := by
  rw [runLines]
  generalize s.executeLine line = x at h ⊢
  obtain ⟨t, x⟩ := x
  dsimp only at h
  rw [h]

theorem runLines_of_error {e : SessionError} (h : (s.executeLine line).2 = .error e) (rest : List String) :
    s.runLines (line :: rest) = ((s.executeLine line).1, .error e) := by
  rw [runLines]
  generalize s.executeLine line = x at h ⊢
  obtain ⟨t, x⟩ := x
  dsimp only at h
  rw [h]

theorem batchSteps_lines_of_ok {r : LineResult} (h : (s.executeLine line).2 = .ok r) (rest : List String) :
    (s.batchSteps (line :: rest)).map Step.line =
      line :: ((s.executeLine line).1.batchSteps rest).map Step.line := by
  rw [batchSteps, List.map_cons, h]

theorem batchSteps_lines_of_error {e : SessionError} (h : (s.executeLine line).2 = .error e) (rest : List String) :
    (s.batchSteps (line :: rest)).map Step.line = [line] := by
  rw [batchSteps, List.map_cons, h]
  rfl

end

theorem executeLine_ok_of_fits {s : Session} {stream : ByteArray} (hs : s.sink.Holds stream)
    {line : String}
    (hf : Sink.Fits s.sink.capacity
      (stream ++ reportBytes (s.robot.obey s.grid line).2.toList).size) :
    (s.executeLine line).2 = .ok (s.robot.respond s.grid line).result := by
  cases h : (s.robot.obey s.grid line).2 with
  | none => exact executeLine_snd_of_none h
  | some p =>
    simp only [h, Option.toList_some, reportBytes, ByteArray.append_empty] at hf
    rw [executeLine_snd_of_some hs h, if_pos hf]

/-! ## Lines whose reports fit -/

/-- Lines whose reports fit are carried out one after the other. -/
theorem runLines_append_of_fits {s : Session} {stream : ByteArray} (hs : s.sink.Holds stream)
    (done : List String)
    (hf : Sink.Fits s.sink.capacity
      (stream ++ reportBytes (s.robot.reports s.grid done)).size) (rest : List String) :
    s.runLines (done ++ rest) = (s.carry done).runLines rest ∧
      (s.batchSteps (done ++ rest)).map Step.line =
        done ++ ((s.carry done).batchSteps rest).map Step.line := by
  induction done generalizing s stream with
  | nil => exact ⟨rfl, rfl⟩
  | cons line done ih =>
    rw [RobotState.reports, reportBytes_append, ← ByteArray.append_assoc] at hf
    have hok := executeLine_ok_of_fits hs hf.of_append
    obtain ⟨h1, h2⟩ := ih (executeLine_holds hs line) (by
      rwa [executeLine_capacity, executeLine_grid, executeLine_robot])
    constructor
    · rw [List.cons_append, runLines_of_ok hok, h1, carry]
    · rw [List.cons_append, batchSteps_lines_of_ok hok, h2, carry, List.cons_append]

/-- If the reports do not fit, there is a first line whose report ends beyond the capacity. -/
theorem exists_first_unfit {g : Grid} {capacity : Option Nat} {s : RobotState} {stream : ByteArray}
    {lines : List String} (h0 : Sink.Fits capacity stream.size)
    (h : ¬Sink.Fits capacity (stream ++ reportBytes (s.reports g lines)).size) :
    ∃ done line later p, lines = done ++ line :: later ∧
      ((s.after g done).obey g line).2 = some p ∧
      Sink.Fits capacity (stream ++ reportBytes (s.reports g done)).size ∧
      ¬Sink.Fits capacity (stream ++ reportBytes (s.reports g (done ++ [line]))).size := by
  induction lines generalizing s stream with
  | nil =>
    simp only [RobotState.reports, reportBytes, ByteArray.append_empty] at h
    exact absurd h0 h
  | cons line rest ih =>
    by_cases hline : Sink.Fits capacity (stream ++ reportBytes (s.obey g line).2.toList).size
    · rw [RobotState.reports, reportBytes_append, ← ByteArray.append_assoc] at h
      obtain ⟨done, bad, later, p, rfl, hp, hd, hb⟩ := ih hline h
      refine ⟨line :: done, bad, later, p, rfl, ?_, ?_, ?_⟩
      · rw [RobotState.after, hp]
      · rwa [RobotState.reports, reportBytes_append, ← ByteArray.append_assoc]
      · rwa [List.cons_append, RobotState.reports, reportBytes_append, ← ByteArray.append_assoc]
    · cases hp : (s.obey g line).2 with
      | none =>
        simp only [hp, Option.toList_none, reportBytes, ByteArray.append_empty] at hline
        exact absurd h0 hline
      | some p =>
        refine ⟨[], line, rest, p, rfl, ?_, ?_, ?_⟩
        · rw [RobotState.after, hp]
        · simpa only [RobotState.reports, reportBytes, ByteArray.append_empty] using h0
        · rwa [List.nil_append, RobotState.reports_singleton]

/-! ## How a batch ends -/

/-- A new session on a new sink. -/
def fresh (g : Grid) (capacity : Option Nat) (refusesFlush : Bool) : Session :=
  start g { capacity, refusesFlush }

/-- All of a batch was carried out: every report is written, and one flush follows. -/
structure Completed (g : Grid) (capacity : Option Nat) (refusesFlush : Bool)
    (lines : List String) (run : Session × Except SessionError Unit) : Prop where
  result : run.2.mapError SessionError.message =
    if refusesFlush then .error "failed to flush output" else .ok ()
  bytes : run.1.sink.bytes = reportBytes (RobotState.unplaced.reports g lines)
  flushes : run.1.sink.flushes = 1
  robot : run.1.robot = RobotState.unplaced.after g lines
  carriedOut : ((fresh g capacity refusesFlush).batchSteps lines).map Step.line = lines
  log : run.1.log.toList =
    .gridInitialized g.length g.width :: RobotState.unplaced.events g lines

/-- A batch was cut off at `line`, whose report ends beyond the `most` bytes of the sink: these
bytes are written, nothing is flushed, and `later` is not carried out. -/
structure CutOff (g : Grid) (most : Nat) (refusesFlush : Bool) (done : List String)
    (line : String) (later : List String) (run : Session × Except SessionError Unit) : Prop where
  isReport : Command.parse (Text.trim line) = .ok .report
  doneFits : (reportBytes (RobotState.unplaced.reports g done)).size ≤ most
  lineUnfit : most < (reportBytes (RobotState.unplaced.reports g (done ++ [line]))).size
  result : run.2.mapError SessionError.message = .error "failed to write report"
  bytes : run.1.sink.bytes =
    (reportBytes (RobotState.unplaced.reports g (done ++ line :: later))).extract 0 most
  flushes : run.1.sink.flushes = 0
  robot : run.1.robot = RobotState.unplaced.after g (done ++ [line])
  carriedOut : ((fresh g (some most) refusesFlush).batchSteps (done ++ line :: later)).map Step.line =
    done ++ [line]
  log : run.1.log.toList =
    .gridInitialized g.length g.width :: RobotState.unplaced.events g (done ++ [line])

theorem holds_fresh (g : Grid) (capacity : Option Nat) (refusesFlush : Bool) :
    (fresh g capacity refusesFlush).sink.Holds .empty := (Sink.clip_empty capacity).symm

section
variable (g : Grid) (capacity : Option Nat) (refusesFlush : Bool) (lines : List String)

theorem fresh_grid : (fresh g capacity refusesFlush).grid = g := rfl

theorem carry_fresh_robot :
    ((fresh g capacity refusesFlush).carry lines).robot = RobotState.unplaced.after g lines :=
  carry_robot _ lines

theorem carry_fresh_log : ((fresh g capacity refusesFlush).carry lines).log.toList =
    .gridInitialized g.length g.width :: RobotState.unplaced.events g lines :=
  carry_log _ lines

theorem carry_fresh_bytes : ((fresh g capacity refusesFlush).carry lines).sink.bytes =
    Sink.clip capacity (reportBytes (RobotState.unplaced.reports g lines)) := by
  have h := carry_holds (holds_fresh g capacity refusesFlush) lines
  rw [ByteArray.empty_append] at h
  rw [h, carry_capacity]
  rfl

theorem carry_fresh_flushes :
    ((fresh g capacity refusesFlush).carry lines).sink.flushes = 0 :=
  carry_flushes _ lines

end

theorem completed_of_fits {g : Grid} {capacity : Option Nat} (refusesFlush : Bool)
    {lines : List String}
    (hf : Sink.Fits capacity (reportBytes (RobotState.unplaced.reports g lines)).size) :
    Completed g capacity refusesFlush lines ((fresh g capacity refusesFlush).runLines lines) := by
  obtain ⟨hrun, hsteps⟩ := runLines_append_of_fits (holds_fresh g capacity refusesFlush)
    lines (by rwa [ByteArray.empty_append]) []
  rw [List.append_nil] at hrun hsteps
  rw [hrun, runLines]
  exact {
    result := by
      rw [flush_snd, carry_refusesFlush]
      cases refusesFlush <;> rfl
    bytes := by
      rw [flush_sink, Sink.bytes_flush, carry_fresh_bytes, Sink.clip_of_fits hf]
    flushes := by rw [flush_sink, Sink.flushes_flush, carry_fresh_flushes]
    robot := by rw [flush_robot, carry_fresh_robot]
    carriedOut := hsteps.trans (List.append_nil lines)
    log := by rw [flush_log, carry_fresh_log] }

theorem cutOff_of_unfit {g : Grid} {most : Nat} (refusesFlush : Bool) {done later : List String}
    {line : String} {p : Placement}
    (hp : ((RobotState.unplaced.after g done).obey g line).2 = some p)
    (hd : (reportBytes (RobotState.unplaced.reports g done)).size ≤ most)
    (hl : most < (reportBytes (RobotState.unplaced.reports g (done ++ [line]))).size) :
    CutOff g most refusesFlush done line later
      ((fresh g (some most) refusesFlush).runLines (done ++ line :: later)) := by
  obtain ⟨hrun, hsteps⟩ := runLines_append_of_fits (holds_fresh g (some most) refusesFlush)
    done (by rwa [ByteArray.empty_append]) (line :: later)
  have hlast : ((fresh g (some most) refusesFlush).carry done).executeLine line =
      ((fresh g (some most) refusesFlush).carry (done ++ [line]),
        .error (.reportNotWritten .full)) := by
    have hobey : (((fresh g (some most) refusesFlush).carry done).robot.obey
        ((fresh g (some most) refusesFlush).carry done).grid line).2 = some p := by
      rwa [carry_fresh_robot, carry_grid, fresh_grid]
    refine Prod.ext (by rw [carry_append, carry, carry]) ?_
    rw [executeLine_snd_of_some (carry_holds (holds_fresh g (some most) refusesFlush) done) hobey,
      if_neg]
    rw [RobotState.reports_append, RobotState.reports_singleton, hp, reportBytes_append,
      Option.toList_some, reportBytes, reportBytes, ByteArray.append_empty] at hl
    rw [carry_capacity, ByteArray.empty_append]
    exact Nat.not_le.2 hl
  have herr : (((fresh g (some most) refusesFlush).carry done).executeLine line).2 =
      .error (.reportNotWritten .full) := by rw [hlast]
  rw [hrun, runLines_of_error herr, hlast]
  exact {
    isReport := (RobotState.obey_of_report hp).1
    doneFits := hd
    lineUnfit := hl
    result := rfl
    bytes := by
      have hunfit : ¬Sink.Fits (some most)
          (reportBytes (RobotState.unplaced.reports g (done ++ [line]))).size := Nat.not_le.2 hl
      rw [carry_fresh_bytes, ← Sink.clip_append_of_not_fits hunfit
        (reportBytes ((RobotState.unplaced.after g (done ++ [line])).reports g later)),
        ← reportBytes_append, ← RobotState.reports_append, List.append_assoc]
      rfl
    flushes := carry_fresh_flushes ..
    robot := carry_fresh_robot ..
    carriedOut := by rw [hsteps, batchSteps_lines_of_error herr]
    log := carry_fresh_log .. }

/-- **How a batch ends.** On a new session, with `R` the bytes of the reports of its lines: if `R`
fits, the batch is completed; otherwise it is cut off at the first report that ends beyond the
capacity. -/
theorem runLines_reports (g : Grid) (capacity : Option Nat) (refusesFlush : Bool)
    (lines : List String) :
    if Sink.Fits capacity (reportBytes (RobotState.unplaced.reports g lines)).size then
      Completed g capacity refusesFlush lines ((fresh g capacity refusesFlush).runLines lines)
    else
      ∃ most done line later, capacity = some most ∧ lines = done ++ line :: later ∧
        CutOff g most refusesFlush done line later
          ((fresh g capacity refusesFlush).runLines lines) := by
  split
  · rename_i hf
    exact completed_of_fits refusesFlush hf
  · rename_i hf
    cases capacity with
    | none => exact absurd trivial hf
    | some most =>
      have h0 : Sink.Fits (some most) ByteArray.empty.size := Nat.zero_le most
      rw [← ByteArray.empty_append (b := reportBytes _)] at hf
      obtain ⟨done, line, later, p, rfl, hp, hd, hl⟩ := exists_first_unfit h0 hf
      rw [ByteArray.empty_append] at hd hl
      exact ⟨most, done, line, later, rfl, rfl,
        cutOff_of_unfit refusesFlush hp hd (Nat.not_le.1 hl)⟩

end Session

end Gridbot
