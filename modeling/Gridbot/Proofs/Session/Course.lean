import Gridbot.Proofs.Robot.Standing
import Gridbot.Proofs.Sink
import Gridbot.Session

/-!
# The course of a text

What a list of lines does to a robot, with nothing around it: each line is trimmed and read, and
the command that it holds, if it is one, is put to `RobotState.next`. This gives a state, the
placements that are reported on the way, and the events that are noted.

A session adds a sink. `carry` is a session that goes on whatever becomes of a line; its robot and
its log are those of the course, and its sink takes what it can of the reports.

* `carry_robot`, `carry_log`: the robot and the log, whatever the sink.
* `carry_holds`: the sink.
* `executeLine_snd_of_some`: a line fails exactly if the reports up to its own do not fit.
-/

namespace Gridbot

/-- The bytes of reports, one line each. -/
def reportBytes : List Placement → ByteArray
  | [] => .empty
  | p :: ps => p.reportLine.toUTF8 ++ reportBytes ps

namespace RobotState

/-- The state after a line, and the placement that the line reports. -/
def obey (g : Grid) (s : RobotState) (line : String) : RobotState × Option Placement :=
  match Command.parse (Text.trim line) with
  | .error _ => (s, none)
  | .ok c =>
    match s.next g c with
    | .error _ => (s, none)
    | .ok t => (t.state, t.report)

/-- The state after a list of lines. -/
def after (g : Grid) (s : RobotState) : List String → RobotState
  | [] => s
  | line :: rest => after g (s.obey g line).1 rest

/-- The placements that a list of lines reports. -/
def reports (g : Grid) (s : RobotState) : List String → List Placement
  | [] => []
  | line :: rest => (s.obey g line).2.toList ++ reports g (s.obey g line).1 rest

/-- The events that a list of lines leaves in a log. -/
def events (g : Grid) (s : RobotState) : List String → List LogEvent
  | [] => []
  | line :: rest => (s.respond g line).log ++ events g (s.obey g line).1 rest

end RobotState

namespace Session

variable {σ : Type} [Output σ]

/-- Carries out all lines, going on after failures. -/
def carry (s : Session σ) : List String → Session σ
  | [] => s
  | line :: rest => (s.executeLine line).1.carry rest

end Session

/-! ## Report bytes -/

theorem reportBytes_append (ps qs : List Placement) :
    reportBytes (ps ++ qs) = reportBytes ps ++ reportBytes qs := by
  induction ps with
  | nil => simp [reportBytes]
  | cons p ps ih => simp only [List.cons_append, reportBytes, ih, ByteArray.append_assoc]

theorem size_reportLine_pos (p : Placement) : 0 < p.reportLine.toUTF8.size := by
  have hn : "\n".toByteArray.size = 1 := rfl
  rw [String.toUTF8_eq_toByteArray, Placement.reportLine, String.toByteArray_append,
    ByteArray.size_append, hn]
  omega

/-! ## Courses -/

namespace RobotState

theorem obey_of_parse {g : Grid} {s : RobotState} {line : String} {c : Command}
    (h : Command.parse (Text.trim line) = .ok c) : (s.obey g line).1 = (s.apply g c).2 := by
  rw [apply_snd]
  unfold obey
  rw [h]
  dsimp only
  cases s.next g c <;> rfl

theorem obey_of_parse_error {g : Grid} {s : RobotState} {line : String} {e : ParseError}
    (h : Command.parse (Text.trim line) = .error e) : s.obey g line = (s, none) := by
  unfold obey
  rw [h]

/-- A line that reads as a command is not blank, and carries the command out. -/
theorem respond_eq_of_parse {g : Grid} {s : RobotState} {line : String} {c : Command}
    (h : Command.parse (Text.trim line) = .ok c) :
    s.respond g line = ⟨.executed c (s.apply g c).1, (s.apply g c).2,
      [.executing (Text.trim line), .ofOutcome c (s.apply g c).2 (s.apply g c).1]⟩ := by
  have hblank : Text.trim line ≠ "" := by
    intro he
    rw [he] at h
    cases h
  unfold respond
  dsimp only
  rw [if_neg hblank, h]

theorem respond_of_parse {g : Grid} {s : RobotState} {line : String} {c : Command}
    (h : Command.parse (Text.trim line) = .ok c) :
    (s.respond g line).result = .executed c (s.apply g c).1 := by rw [respond_eq_of_parse h]

theorem respond_robot (g : Grid) (s : RobotState) (line : String) :
    (s.respond g line).robot = (s.obey g line).1 := by
  unfold respond obey
  dsimp only
  split
  · rename_i h; rw [h]; rfl
  · cases Command.parse (Text.trim line) with
    | error e => rfl
    | ok c =>
      dsimp only
      rw [apply_snd]
      cases s.next g c <;> rfl

theorem respond_report? (g : Grid) (s : RobotState) (line : String) :
    (s.respond g line).result.report? = (s.obey g line).2 := by
  unfold respond obey
  dsimp only
  split
  · rename_i h; rw [h]; rfl
  · cases Command.parse (Text.trim line) with
    | error e => rfl
    | ok c =>
      dsimp only
      unfold apply
      cases s.next g c with
      | error r => rfl
      | ok t => obtain ⟨t, _ | p⟩ := t <;> rfl

theorem reports_append (g : Grid) (s : RobotState) (xs ys : List String) :
    s.reports g (xs ++ ys) = s.reports g xs ++ (s.after g xs).reports g ys := by
  induction xs generalizing s with
  | nil => rfl
  | cons x xs ih => simp only [List.cons_append, reports, ih, after, List.append_assoc]

theorem reports_singleton (g : Grid) (s : RobotState) (line : String) :
    s.reports g [line] = (s.obey g line).2.toList := by
  simp [reports]

/-! ## Reports leave the robot alone -/

theorem obey_of_report {g : Grid} {s : RobotState} {line : String} {p : Placement}
    (h : (s.obey g line).2 = some p) :
    Command.parse (Text.trim line) = .ok .report ∧ s = .placed p ∧ (s.obey g line).1 = s := by
  unfold obey at h ⊢
  cases hc : Command.parse (Text.trim line) with
  | error e => simp [hc] at h
  | ok c =>
    cases ht : s.next g c with
    | error r => simp [hc, ht] at h
    | ok t =>
      simp only [hc, ht] at h ⊢
      rcases next_cases ht with ⟨q, -, -, rfl⟩ | ⟨q, d, -, -, -, -, rfl⟩ | ⟨q, k, -, -, rfl⟩ |
        ⟨q, rfl, rfl, rfl⟩
      · cases h
      · cases h
      · cases h
      · cases h; exact ⟨rfl, rfl, rfl⟩

end RobotState

namespace Session

/-! ## One line -/

section
variable {σ : Type} [Output σ]

theorem executeLine_grid (s : Session σ) (line : String) :
    (s.executeLine line).1.grid = s.grid := by
  unfold executeLine
  dsimp only
  split <;> rfl

theorem executeLine_robot (s : Session σ) (line : String) :
    (s.executeLine line).1.robot = (s.robot.obey s.grid line).1 := by
  rw [← RobotState.respond_robot]
  unfold executeLine
  dsimp only
  split <;> rfl

theorem executeLine_log (s : Session σ) (line : String) :
    (s.executeLine line).1.log = s.log ++ (s.robot.respond s.grid line).log := by
  unfold executeLine
  dsimp only
  split <;> rfl

theorem executeLine_sink (s : Session σ) (line : String) :
    (s.executeLine line).1.sink = match (s.robot.obey s.grid line).2 with
      | none => s.sink
      | some p => (Output.write s.sink p.reportLine.toUTF8).1 := by
  rw [← RobotState.respond_report?]
  unfold executeLine
  dsimp only
  cases (s.robot.respond s.grid line).result.report? with
  | none => rfl
  | some p => rfl

theorem executeLine_snd_of_none {s : Session σ} {line : String}
    (h : (s.robot.obey s.grid line).2 = none) :
    (s.executeLine line).2 = .ok (s.robot.respond s.grid line).result := by
  rw [← RobotState.respond_report?] at h
  unfold executeLine
  dsimp only
  rw [h]

/-- **Results.** A line has the result that it has for the robot, or it reports and the report is
refused. -/
theorem executeLine_cases (s : Session σ) (line : String) :
    ((s.executeLine line).2 = .ok (s.robot.respond s.grid line).result ∧
      ∀ p, (s.robot.obey s.grid line).2 = some p →
        (Output.write s.sink p.reportLine.toUTF8).2 = .ok ()) ∨
      ∃ p cause, (s.robot.obey s.grid line).2 = some p ∧
        (Output.write s.sink p.reportLine.toUTF8).2 = .error cause ∧
        (s.executeLine line).2 = .error (.reportNotWritten cause) := by
  cases hp : (s.robot.obey s.grid line).2 with
  | none => exact Or.inl ⟨executeLine_snd_of_none hp, fun p h => by cases h⟩
  | some p =>
    have hreport := hp
    rw [← RobotState.respond_report?] at hreport
    unfold executeLine
    dsimp only
    rw [hreport]
    dsimp only
    cases hw : (Output.write s.sink p.reportLine.toUTF8).2 with
    | ok u =>
      refine Or.inl ⟨rfl, fun q hq => ?_⟩
      cases hq
      exact hw
    | error cause => exact Or.inr ⟨p, cause, rfl, hw, rfl⟩

/-- A line that does not fail has the result that it has for the robot. -/
theorem executeLine_snd_of_ok {s : Session σ} {line : String} {r : LineResult}
    (h : (s.executeLine line).2 = .ok r) : r = (s.robot.respond s.grid line).result := by
  rcases executeLine_cases s line with ⟨hok, -⟩ | ⟨_, _, -, -, he⟩
  · rw [hok] at h
    exact (Except.ok.inj h).symm
  · rw [he] at h
    cases h

end

/-- A report is written if all reports up to it fit. -/
theorem executeLine_snd_of_some {s : Session} {stream : ByteArray} (hs : s.sink.Holds stream)
    {line : String} {p : Placement} (h : (s.robot.obey s.grid line).2 = some p) :
    (s.executeLine line).2 =
      if Sink.Fits s.sink.capacity (stream ++ p.reportLine.toUTF8).size then
        .ok (s.robot.respond s.grid line).result
      else .error (.reportNotWritten .full) := by
  have hw := Sink.write_snd_of_holds hs (size_reportLine_pos p)
  rw [← RobotState.respond_report?] at h
  unfold executeLine
  dsimp only
  rw [h]
  dsimp only
  rw [Sink.output_write, hw]
  by_cases hf : Sink.Fits s.sink.capacity (stream ++ p.reportLine.toUTF8).size
  · rw [if_pos hf, if_pos hf]
  · rw [if_neg hf, if_neg hf]

/-- The only refusal of a report is that the sink is full. -/
theorem executeLine_snd_cases (s : Session) (line : String) :
    (s.executeLine line).2 = .ok (s.robot.respond s.grid line).result ∨
      ∃ p, (s.robot.obey s.grid line).2 = some p ∧
        (s.sink.write p.reportLine.toUTF8).2 = .error .full ∧
        (s.executeLine line).2 = .error (.reportNotWritten .full) := by
  rcases executeLine_cases s line with ⟨hok, -⟩ | ⟨p, cause, hp, hw, he⟩
  · exact Or.inl hok
  · rw [Sink.output_write] at hw
    obtain rfl : cause = .full := by
      rcases Sink.write_snd_cases s.sink p.reportLine.toUTF8 with h | h
      · cases hw.symm.trans h
      · exact Except.error.inj (hw.symm.trans h)
    exact Or.inr ⟨p, hp, hw, he⟩

/-- Nothing of the sink changes but its bytes. -/
theorem executeLine_sink_frame (s : Session) (line : String) :
    (s.executeLine line).1.sink = { s.sink with bytes := (s.executeLine line).1.sink.bytes } := by
  rw [executeLine_sink]
  split <;> rfl

theorem executeLine_capacity (s : Session) (line : String) :
    (s.executeLine line).1.sink.capacity = s.sink.capacity := by
  rw [executeLine_sink_frame]

theorem executeLine_refusesFlush (s : Session) (line : String) :
    (s.executeLine line).1.sink.refusesFlush = s.sink.refusesFlush := by
  rw [executeLine_sink_frame]

theorem executeLine_holds {s : Session} {stream : ByteArray} (hs : s.sink.Holds stream)
    (line : String) :
    (s.executeLine line).1.sink.Holds
      (stream ++ reportBytes (s.robot.obey s.grid line).2.toList) := by
  rw [executeLine_sink]
  split
  · rename_i h
    simpa [h, reportBytes] using hs
  · rename_i p h
    simpa [h, reportBytes] using Sink.holds_write hs p.reportLine.toUTF8

/-! ## All lines -/

section
variable {σ : Type} [Output σ] (s : Session σ) (lines : List String)

theorem carry_append (more : List String) :
    s.carry (lines ++ more) = (s.carry lines).carry more := by
  induction lines generalizing s with
  | nil => rfl
  | cons line rest ih => rw [List.cons_append, carry, carry, ih]

theorem carry_grid : (s.carry lines).grid = s.grid := by
  induction lines generalizing s with
  | nil => rfl
  | cons line rest ih => rw [carry, ih, executeLine_grid]

theorem carry_robot : (s.carry lines).robot = s.robot.after s.grid lines := by
  induction lines generalizing s with
  | nil => rfl
  | cons line rest ih => rw [carry, ih, executeLine_grid, executeLine_robot, RobotState.after]

theorem carry_log : (s.carry lines).log.toList = s.log.toList ++ s.robot.events s.grid lines := by
  induction lines generalizing s with
  | nil => simp [carry, RobotState.events]
  | cons line rest ih =>
    rw [carry, ih, executeLine_grid, executeLine_robot, executeLine_log, Array.toList_appendList,
      List.append_assoc, RobotState.events]

end

section
variable (s : Session) (lines : List String)

/-- Nothing of the sink changes but its bytes. -/
theorem carry_sink_frame :
    (s.carry lines).sink = { s.sink with bytes := (s.carry lines).sink.bytes } := by
  induction lines generalizing s with
  | nil => rfl
  | cons line rest ih =>
    have h := ih (s.executeLine line).1
    rw [executeLine_sink_frame] at h
    rw [carry]
    exact h

theorem carry_capacity : (s.carry lines).sink.capacity = s.sink.capacity := by
  rw [carry_sink_frame]

theorem carry_refusesFlush : (s.carry lines).sink.refusesFlush = s.sink.refusesFlush := by
  rw [carry_sink_frame]

theorem carry_flushes : (s.carry lines).sink.flushes = s.sink.flushes := by
  rw [carry_sink_frame]

end

/-- **The sink of a session that goes on.** It holds what it takes of all reports, written in full
or not. -/
theorem carry_holds {s : Session} {stream : ByteArray} (hs : s.sink.Holds stream)
    (lines : List String) :
    (s.carry lines).sink.Holds (stream ++ reportBytes (s.robot.reports s.grid lines)) := by
  induction lines generalizing s stream with
  | nil => simpa [carry, RobotState.reports, reportBytes] using hs
  | cons line rest ih =>
    have := ih (executeLine_holds hs line)
    rwa [executeLine_grid, executeLine_robot, ByteArray.append_assoc, ← reportBytes_append] at this

end Session

end Gridbot
