import Gridbot.Proofs.Session.Batch

/-!
# What a line shows

All that one line lets an observer see of a session: what came of it, where the robot is then, what
was noted and what was written. `observations` lists this for lines carried out one by one.

* `observe_of_unlimited`: on a sink without a limit it is settled by the grid, the robot and the
  line. What was noted or written before plays no part.
* `observations_congr`: so two such sessions whose robots are at the same place show the same from
  then on.
-/

namespace Gridbot

/-- What can be seen of a session at one line. -/
structure Observation where
  result : Except SessionError LineResult
  /-- The robot after the line. -/
  robot : RobotState
  /-- The events that the line added to the log. -/
  log : List LogEvent
  /-- The bytes that the line added to the sink. -/
  written : ByteArray

/-- What a line shows of a robot on a grid whose reports are all written. -/
def RobotState.shows (g : Grid) (s : RobotState) (line : String) : Observation where
  result := .ok (s.respond g line).result
  robot := (s.obey g line).1
  log := (s.respond g line).log
  written := reportBytes (s.obey g line).2.toList

namespace Session

/-- What a line shows of a session: how the session differs after it. -/
def observe (s : Session) (line : String) : Observation where
  result := (s.executeLine line).2
  robot := (s.executeLine line).1.robot
  log := (s.executeLine line).1.log.toList.drop s.log.size
  written := (s.executeLine line).1.sink.bytes.extract s.sink.bytes.size
    (s.executeLine line).1.sink.bytes.size

/-- What each of a list of lines shows, whatever came of the ones before. -/
def observations (s : Session) : List String → List Observation
  | [] => []
  | line :: rest => s.observe line :: (s.executeLine line).1.observations rest

/-! ## Sinks without a limit -/

theorem holds_of_unlimited {s : Session} (h : s.sink.capacity = none) :
    s.sink.Holds s.sink.bytes := by
  unfold Sink.Holds
  rw [h]
  rfl

theorem executeLine_snd_of_unlimited {s : Session} (h : s.sink.capacity = none) (line : String) :
    (s.executeLine line).2 = .ok (s.robot.respond s.grid line).result := by
  refine executeLine_ok_of_fits (holds_of_unlimited h) ?_
  rw [h]
  trivial

theorem executeLine_bytes_of_unlimited {s : Session} (h : s.sink.capacity = none) (line : String) :
    (s.executeLine line).1.sink.bytes =
      s.sink.bytes ++ reportBytes (s.robot.obey s.grid line).2.toList := by
  have hb := executeLine_holds (holds_of_unlimited h) line
  unfold Sink.Holds at hb
  rw [hb, executeLine_capacity, h]
  rfl

/-! ## Observations -/

theorem observe_log (s : Session) (line : String) :
    (s.observe line).log = (s.robot.respond s.grid line).log := by
  unfold observe
  dsimp only
  rw [executeLine_log, Array.toList_appendList, ← Array.length_toList, List.drop_left]

theorem observe_of_unlimited {s : Session} (h : s.sink.capacity = none) (line : String) :
    s.observe line = s.robot.shows s.grid line := by
  have hwritten : (s.observe line).written = reportBytes (s.robot.obey s.grid line).2.toList := by
    unfold observe
    dsimp only
    rw [executeLine_bytes_of_unlimited h, ByteArray.size_append]
    exact ByteArray.extract_append_eq_right rfl rfl
  calc s.observe line
      = ⟨(s.executeLine line).2, (s.executeLine line).1.robot, (s.observe line).log,
          (s.observe line).written⟩ := rfl
    _ = s.robot.shows s.grid line := by
      rw [executeLine_snd_of_unlimited h, executeLine_robot, observe_log, hwritten]
      rfl

/-- **The future does not depend on the past.** -/
theorem observations_congr {s t : Session} (hgrid : s.grid = t.grid) (hrobot : s.robot = t.robot)
    (hs : s.sink.capacity = none) (ht : t.sink.capacity = none) (lines : List String) :
    s.observations lines = t.observations lines := by
  induction lines generalizing s t with
  | nil => rfl
  | cons line rest ih =>
    have hline : s.observe line = t.observe line := by
      rw [observe_of_unlimited hs, observe_of_unlimited ht, hgrid, hrobot]
    have hrest : (s.executeLine line).1.observations rest =
        (t.executeLine line).1.observations rest := by
      apply ih
      · rw [executeLine_grid, executeLine_grid, hgrid]
      · rw [executeLine_robot, executeLine_robot, hgrid, hrobot]
      · rw [executeLine_capacity, hs]
      · rw [executeLine_capacity, ht]
    rw [observations, observations, hline, hrest]

end Session

end Gridbot
