import Gridbot.Proofs.Command.Grammar
import Gridbot.Proofs.Session.Observation

/-!
# The robot and the sink

Reports flow from the robot to the sink and nothing flows back. Two sessions that differ in their
sinks at most have the same robot and the same log after every line, whatever either sink refused.

What a limit does is to fail some steps: those of a `REPORT` by a placed robot whose report ends
beyond the limit. Such a step leaves the robot where it was.

* `SameInside.singleSteps_inside`: two runs that differ in their sinks.
* `executeLine_fails_iff`, `executeLine_of_error`: which step fails, and what it leaves.
* `limit_reaches_writes_only`: both, with the bytes that a limited sink ends up with.
-/

namespace Gridbot

/-- What a step shows of a session apart from its sink. -/
def Step.inside (e : Step) : RobotState × Array LogEvent := (e.session.robot, e.session.log)

namespace Session

/-- The session with its reports going to another sink. -/
def onto (s : Session) (sink : Sink) : Session := { s with sink }

/-- The sessions differ in their sinks at most. -/
structure SameInside (s t : Session) : Prop where
  grid : s.grid = t.grid
  robot : s.robot = t.robot
  log : s.log = t.log

/-- How a line fares in `s`, whose sink holds `most` bytes, and in `free`, whose sink has no limit.
All reports up to and with the line's own are `size` bytes long. -/
structure FailsBeyond (most size : Nat) (s free : Session) (line : String) : Prop where
  fails_iff : (∃ e, (s.executeLine line).2 = .error e) ↔
    Text.trim line = "REPORT" ∧ s.robot ≠ .unplaced ∧ most < size
  /-- A step that fails does so for its report, and the robot stays as it is. -/
  failure : ∀ e, (s.executeLine line).2 = .error e →
    e.message = "failed to write report" ∧ (s.executeLine line).1.robot = s.robot
  /-- Any other step has the result that it has without the limit. -/
  success : ∀ r, (s.executeLine line).2 = .ok r → (free.executeLine line).2 = .ok r

end Session

/-! ## Lines that report -/

theorem Command.parse_eq_report_iff {line : String} :
    parse line = .ok report ↔ line = "REPORT" := by
  constructor
  · intro h
    cases written_of_parse h
    rfl
  · rintro rfl
    rfl

/-- A line reports a placement exactly if it is `REPORT` and the robot is so placed. -/
theorem RobotState.obey_snd_eq_some_iff {g : Grid} {s : RobotState} {line : String}
    {p : Placement} :
    (s.obey g line).2 = some p ↔ Text.trim line = "REPORT" ∧ s = .placed p := by
  constructor
  · intro h
    obtain ⟨hparse, hs, -⟩ := obey_of_report h
    exact ⟨Command.parse_eq_report_iff.1 hparse, hs⟩
  · rintro ⟨hline, rfl⟩
    have hparse := Command.parse_eq_report_iff.2 hline
    simp only [obey, hparse, next]

namespace Session

/-! ## Sessions that differ in their sinks -/

theorem sameInside_onto (s : Session) (a b : Sink) : SameInside (s.onto a) (s.onto b) :=
  ⟨rfl, rfl, rfl⟩

theorem SameInside.executeLine {s t : Session} (h : SameInside s t) (line : String) :
    SameInside (s.executeLine line).1 (t.executeLine line).1 where
  grid := by rw [executeLine_grid, executeLine_grid, h.grid]
  robot := by rw [executeLine_robot, executeLine_robot, h.grid, h.robot]
  log := by rw [executeLine_log, executeLine_log, h.grid, h.robot, h.log]

/-- Step by step, such sessions have the same robot and the same log. -/
theorem SameInside.singleSteps_inside {s t : Session} (h : SameInside s t) (lines : List String) :
    (s.singleSteps lines).map Step.inside = (t.singleSteps lines).map Step.inside := by
  induction lines generalizing s t with
  | nil => rfl
  | cons line rest ih =>
    have hline := h.executeLine line
    simp only [singleSteps, List.map_cons, Step.inside, hline.robot, hline.log]
    exact congrArg _ (ih hline)

/-! ## Which steps fail -/

/-- A step fails exactly if its line reports and all reports up to and with its own do not fit. -/
theorem executeLine_fails_iff {s : Session} {stream : ByteArray} (hs : s.sink.Holds stream)
    (line : String) :
    (∃ e, (s.executeLine line).2 = .error e) ↔
      Text.trim line = "REPORT" ∧ s.robot ≠ .unplaced ∧
        ¬Sink.Fits s.sink.capacity
          (stream ++ reportBytes (s.robot.obey s.grid line).2.toList).size := by
  cases hp : (s.robot.obey s.grid line).2 with
  | none =>
    have hno : ¬(Text.trim line = "REPORT" ∧ s.robot ≠ .unplaced) := by
      rintro ⟨hline, hrobot⟩
      cases hr : s.robot with
      | unplaced => exact hrobot hr
      | placed p =>
        have := RobotState.obey_snd_eq_some_iff (g := s.grid).2 ⟨hline, hr⟩
        rw [hp] at this
        cases this
    rw [executeLine_snd_of_none hp]
    constructor
    · rintro ⟨e, he⟩
      cases he
    · rintro ⟨hline, hrobot, -⟩
      exact absurd ⟨hline, hrobot⟩ hno
  | some p =>
    obtain ⟨hline, hrobot⟩ := RobotState.obey_snd_eq_some_iff.1 hp
    have hplaced : s.robot ≠ .unplaced := by rw [hrobot]; exact RobotState.noConfusion
    have hbytes : reportBytes (some p).toList = p.reportLine.toUTF8 := ByteArray.append_empty
    rw [executeLine_snd_of_some hs hp, hbytes]
    by_cases hf : Sink.Fits s.sink.capacity (stream ++ p.reportLine.toUTF8).size
    · rw [if_pos hf]
      constructor
      · rintro ⟨e, he⟩
        cases he
      · rintro ⟨-, -, hunfit⟩
        exact absurd hf hunfit
    · rw [if_neg hf]
      exact ⟨fun _ => ⟨hline, hplaced, hf⟩, fun _ => ⟨_, rfl⟩⟩

/-- A step that fails has not written its report; the robot is where it was. -/
theorem executeLine_of_error {s : Session} {line : String} {e : SessionError}
    (h : (s.executeLine line).2 = .error e) :
    e.message = "failed to write report" ∧ (s.executeLine line).1.robot = s.robot := by
  rcases executeLine_snd_cases s line with hok | ⟨p, hp, -, he⟩
  · rw [hok] at h
    cases h
  · rw [he] at h
    cases h
    exact ⟨rfl, by rw [executeLine_robot, (RobotState.obey_of_report hp).2.2]⟩

/-! ## Limited sinks -/

section
variable (s : Session) (refusesFlush : Bool)

theorem holds_onto (capacity : Option Nat) :
    (s.onto { capacity, refusesFlush }).sink.Holds .empty := (Sink.clip_empty capacity).symm

theorem carry_onto_holds (capacity : Option Nat) (lines : List String) :
    ((s.onto { capacity, refusesFlush }).carry lines).sink.Holds
      (reportBytes (s.robot.reports s.grid lines)) := by
  have h := carry_holds (holds_onto s refusesFlush capacity) lines
  rwa [ByteArray.empty_append] at h

theorem carry_onto_bytes (capacity : Option Nat) (lines : List String) :
    ((s.onto { capacity, refusesFlush }).carry lines).sink.bytes =
      Sink.clip capacity (reportBytes (s.robot.reports s.grid lines)) := by
  have h := carry_onto_holds s refusesFlush capacity lines
  rwa [Sink.Holds, carry_capacity] at h

/-- How a line fares behind any lines. -/
theorem failsBeyond_carry (most : Nat) (done : List String) (line : String) :
    FailsBeyond most (reportBytes (s.robot.reports s.grid (done ++ [line]))).size
      ((s.onto { capacity := some most, refusesFlush }).carry done)
      ((s.onto { refusesFlush }).carry done) line := by
  let limited := (s.onto { capacity := some most, refusesFlush }).carry done
  let free := (s.onto { refusesFlush }).carry done
  have hsame : limited.robot = free.robot ∧ limited.grid = free.grid := by
    simp only [limited, free, carry_robot, carry_grid]
    exact ⟨rfl, rfl⟩
  have hsize : reportBytes (s.robot.reports s.grid done) ++
      reportBytes (limited.robot.obey limited.grid line).2.toList =
        reportBytes (s.robot.reports s.grid (done ++ [line])) := by
    rw [RobotState.reports_append, reportBytes_append, RobotState.reports_singleton]
    simp only [limited, carry_robot, carry_grid]
    rfl
  have hcapacity : limited.sink.capacity = some most := carry_capacity _ done
  exact {
    fails_iff := by
      have h := executeLine_fails_iff (carry_onto_holds s refusesFlush (some most) done) line
      rw [hsize, hcapacity] at h
      simpa only [Sink.Fits, Nat.not_le] using h
    failure := fun e he => executeLine_of_error he
    success := by
      intro r hr
      have hfree : free.sink.capacity = none := carry_capacity _ done
      have hresult := executeLine_snd_of_ok hr
      rw [executeLine_snd_of_unlimited hfree line, hresult, hsame.1, hsame.2] }

end

/-- **The sink never influences the robot.** Whatever the sinks, lines carried out one by one leave
the same robot and the same log after each. On a new sink of `most` bytes a step fails exactly if it
is a report that ends beyond them, every other step has its usual result, and the sink ends up with
the first `most` bytes of what a sink without a limit receives, which is every report. -/
theorem limit_reaches_writes_only (s : Session) (lines : List String) :
    (∀ a b : Sink, ((s.onto a).singleSteps lines).map Step.inside =
      ((s.onto b).singleSteps lines).map Step.inside) ∧
    ∀ (most : Nat) (refusesFlush : Bool),
      let limited := s.onto { capacity := some most, refusesFlush }
      let free := s.onto { refusesFlush }
      (∀ (done : List String) (line : String),
        FailsBeyond most (reportBytes (s.robot.reports s.grid (done ++ [line]))).size
          (limited.carry done) (free.carry done) line) ∧
      (free.carry lines).sink.bytes = reportBytes (s.robot.reports s.grid lines) ∧
      (limited.carry lines).sink.bytes = (free.carry lines).sink.bytes.extract 0 most := by
  refine ⟨fun a b => (sameInside_onto s a b).singleSteps_inside lines, fun most refusesFlush => ?_⟩
  have hfree : ((s.onto { refusesFlush }).carry lines).sink.bytes =
      reportBytes (s.robot.reports s.grid lines) := carry_onto_bytes s refusesFlush none lines
  refine ⟨failsBeyond_carry s refusesFlush most, hfree, ?_⟩
  rw [carry_onto_bytes, hfree]
  rfl

end Session

end Gridbot
