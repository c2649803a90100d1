import Gridbot.Proofs.Arrival
import Gridbot.Proofs.Session.Batch

/-!
# What a batch does not depend on

A session reacts to a line as it is without the blanks at its ends, and not at all to a blank line.
So a batch of lines and the batch of the cleaned lines are the same. Nor does a session ever look at
what its log already holds.

* `runLines_cleaned`, `batchSteps_cleaned`: cleaning, for the outcome and for the lines carried out.
* `runLines_precededBy`, `batchSteps_precededBy`: earlier events.
* `runLines_snd_cases`: how a batch can end on a sink that accepts flushes.
-/

namespace Gridbot

theorem cleaned_cons_of_blank {line : String} (h : Text.trim line = "") (rest : List String) :
    cleaned (line :: rest) = cleaned rest := by
  simp [cleaned, h]

theorem cleaned_cons_of_ne {line : String} (h : Text.trim line ≠ "") (rest : List String) :
    cleaned (line :: rest) = Text.trim line :: cleaned rest := by
  simp [cleaned, h]

namespace Session

/-! ## Blanks -/

/-- A blank line does nothing at all. -/
theorem executeLine_of_blank {line : String} (h : Text.trim line = "") (s : Session) :
    s.executeLine line = (s, .ok .skipped) := by
  have hrespond : s.robot.respond s.grid line = ⟨.skipped, s.robot, []⟩ := by
    unfold RobotState.respond
    dsimp only
    rw [if_pos h]
  obtain ⟨grid, robot, log, sink⟩ := s
  dsimp only at hrespond
  unfold executeLine
  dsimp only
  rw [hrespond]
  simp [LineResult.report?]

theorem runLines_cleaned (s : Session) (lines : List String) :
    s.runLines (cleaned lines) = s.runLines lines := by
  induction lines generalizing s with
  | nil => rfl
  | cons line rest ih =>
    by_cases h : Text.trim line = ""
    · rw [cleaned_cons_of_blank h, ih, runLines, executeLine_of_blank h]
    · rw [cleaned_cons_of_ne h, runLines, runLines, executeLine_trim]
      generalize s.executeLine line = x
      obtain ⟨t, e | r⟩ := x
      · rfl
      · exact ih t

/-- The cleaned lines that are carried out are those of the lines, cleaned. -/
theorem batchSteps_cleaned (s : Session) (lines : List String) :
    (s.batchSteps (cleaned lines)).map Step.line =
      cleaned ((s.batchSteps lines).map Step.line) := by
  induction lines generalizing s with
  | nil => rfl
  | cons line rest ih =>
    by_cases h : Text.trim line = ""
    · have hok : (s.executeLine line).2 = .ok .skipped := by rw [executeLine_of_blank h]
      rw [cleaned_cons_of_blank h, batchSteps_lines_of_ok hok, cleaned_cons_of_blank h, ih,
        executeLine_of_blank h]
    · have htrim : (s.executeLine (Text.trim line)).2 = (s.executeLine line).2 := by
        rw [executeLine_trim]
      rw [cleaned_cons_of_ne h]
      cases hr : (s.executeLine line).2 with
      | error e =>
        rw [batchSteps_lines_of_error (htrim.trans hr), batchSteps_lines_of_error hr,
          cleaned_cons_of_ne h]
        rfl
      | ok r =>
        rw [batchSteps_lines_of_ok (htrim.trans hr), batchSteps_lines_of_ok hr,
          cleaned_cons_of_ne h, executeLine_trim, ih]

/-! ## Earlier events -/

/-- The session with earlier events in front of its log. -/
def precededBy (earlier : List LogEvent) (s : Session) : Session :=
  { s with log := earlier.toArray ++ s.log }

theorem executeLine_precededBy (earlier : List LogEvent) (s : Session) (line : String) :
    (s.precededBy earlier).executeLine line =
      ((s.executeLine line).1.precededBy earlier, (s.executeLine line).2) := by
  obtain ⟨grid, robot, log, sink⟩ := s
  have hlog : earlier.toArray ++ log ++ (robot.respond grid line).log =
      earlier.toArray ++ (log ++ (robot.respond grid line).log) := Array.toList_inj.1 (by simp)
  unfold precededBy executeLine
  dsimp only
  rw [hlog]
  split <;> rfl

theorem runLines_precededBy (earlier : List LogEvent) (s : Session) (lines : List String) :
    (s.precededBy earlier).runLines lines =
      ((s.runLines lines).1.precededBy earlier, (s.runLines lines).2) := by
  induction lines generalizing s with
  | nil => rfl
  | cons line rest ih =>
    rw [runLines, runLines, executeLine_precededBy]
    generalize s.executeLine line = x
    obtain ⟨t, e | r⟩ := x
    · rfl
    · exact ih t

theorem batchSteps_precededBy (earlier : List LogEvent) (s : Session) (lines : List String) :
    ((s.precededBy earlier).batchSteps lines).map Step.line =
      (s.batchSteps lines).map Step.line := by
  induction lines generalizing s with
  | nil => rfl
  | cons line rest ih =>
    rw [batchSteps, batchSteps, executeLine_precededBy]
    dsimp only
    rw [List.map_cons, List.map_cons]
    cases (s.executeLine line).2 with
    | error e => rfl
    | ok r => exact congrArg (line :: ·) (ih (s.executeLine line).1)

theorem precededBy_log (earlier : List LogEvent) (s : Session) :
    (s.precededBy earlier).log.toList = earlier ++ s.log.toList := by
  simp [precededBy]

/-! ## Results -/

theorem runLines_snd_cases {s : Session} (hf : s.sink.refusesFlush = false) (lines : List String) :
    (s.runLines lines).2 = .ok () ∨
      (s.runLines lines).2 = .error (.reportNotWritten .full) := by
  induction lines generalizing s with
  | nil => exact Or.inl (flush_snd_of_accepts hf)
  | cons line rest ih =>
    rcases executeLine_snd_cases s line with hr | ⟨-, -, -, he⟩
    · rw [runLines_of_ok hr]
      exact ih (by rw [executeLine_refusesFlush, hf])
    · rw [runLines_of_error he]
      exact Or.inr rfl

end Session

end Gridbot
