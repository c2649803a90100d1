import Gridbot.Log
import Gridbot.Sink

/-!
# Sessions

A session feeds lines of text to a robot. What a line does to the robot is settled by `respond`
alone, from the grid, the state and the line; a session adds the log and the sink that reports go
to.

* `executeLine` carries out one line. It fails only if a report cannot be written, and then the
  robot and the log are as if it had been written.
* `runLines` stops at the first failure and flushes once at the end.
-/

namespace Gridbot

/-! ## One line -/

/-- What a line did. -/
inductive LineResult
  /-- The line was blank. -/
  | skipped
  | invalid (e : ParseError)
  | executed (c : Command) (o : Outcome)
  deriving DecidableEq, Repr

/-- The placement that a line reports, if it does. -/
def LineResult.report? : LineResult → Option Placement
  | executed _ (.reported p) => some p
  | _ => none

/-- A line's result, the state after it and the events it leaves in the log. -/
structure Response where
  result : LineResult
  robot : RobotState
  log : List LogEvent
  deriving DecidableEq, Repr

/-- What a robot on a grid does with a line of text. Blanks at the ends of the line are ignored.
-/
def RobotState.respond (g : Grid) (s : RobotState) (text : String) : Response :=
  let line := Text.trim text
  if line = "" then ⟨.skipped, s, []⟩
  else
    match Command.parse line with
    | .error e => ⟨.invalid e, s, [.executing line, .invalid line e]⟩
    | .ok c =>
      let (outcome, after) := s.apply g c
      ⟨.executed c outcome, after, [.executing line, .ofOutcome c after outcome]⟩

/-- The line that a report is written as. -/
def Placement.reportLine (p : Placement) : String := p.report ++ "\n"

/-! ## Failures -/

/-- Why a session ends early. -/
inductive SessionError
  | reportNotWritten (cause : SinkError)
  | outputNotFlushed (cause : SinkError)
  /-- A line of the input was no text. -/
  | lineNotRead
  deriving DecidableEq, Repr

namespace SessionError

def message : SessionError → String
  | reportNotWritten _ => "failed to write report"
  | outputNotFlushed _ => "failed to flush output"
  | lineNotRead => "failed to read line"

/-- What brought a session error about, the nearest cause first. -/
def causes : SessionError → List String
  | reportNotWritten cause | outputNotFlushed cause => [cause.message]
  | lineNotRead => ["stream did not contain valid UTF-8", "stream did not contain valid UTF-8"]

end SessionError

/-! ## Sessions -/

/-- A robot on a grid, what was logged so far, and where reports go. -/
structure Session (σ : Type := Sink) where
  grid : Grid
  robot : RobotState
  log : Array LogEvent
  sink : σ

namespace Session

variable {σ : Type}

def start (g : Grid) (sink : σ) : Session σ :=
  ⟨g, .unplaced, #[.gridInitialized g.length g.width], sink⟩

def note : Session σ → LogEvent → Session σ
  | ⟨grid, robot, log, sink⟩, e => ⟨grid, robot, log.push e, sink⟩

variable [Output σ]

/-- Carries out one line, and writes the report if it makes one. -/
def executeLine : Session σ → String → Session σ × Except SessionError LineResult
  | ⟨grid, robot, log, sink⟩, line =>
    let r := robot.respond grid line
    match r.result.report? with
    | none => (⟨grid, r.robot, log ++ r.log, sink⟩, .ok r.result)
    | some p =>
      let (sink, written) := Output.write sink p.reportLine.toUTF8
      (⟨grid, r.robot, log ++ r.log, sink⟩,
        match written with
        | .ok () => .ok r.result
        | .error e => .error (.reportNotWritten e))

def flush : Session σ → Session σ × Except SessionError Unit
  | ⟨grid, robot, log, sink⟩ =>
    let (sink, flushed) := Output.flush sink
    (⟨grid, robot, log, sink⟩, flushed.mapError .outputNotFlushed)

/-- Carries out lines up to the first failure. If there is none, flushes at the end. -/
def runLines (s : Session σ) : List String → Session σ × Except SessionError Unit
  | [] => s.flush
  | line :: rest =>
    match s.executeLine line with
    | (s, .ok _) => s.runLines rest
    | (s, .error e) => (s, .error e)

end Session

end Gridbot
