import Gridbot.Proofs.Session.Course
import Gridbot.Proofs.Text.Blank
import Gridbot.Session.Dialogue

/-!
# The lines that a session carries out

Lines come to a session in three ways: one by one with no end to it, as a batch that stops at the
first failure, and as a dialogue that an arrival can end. Each way is given here as the list of
the lines that are carried out, with the session after each.

* `leads_feed`: whichever way they come, each line is carried out where the one before left the
  session, and a flush may follow it.
* `Leads.follows`: so the robot goes from line to line as the course of the lines says.
* `runLines_robot`, `converse_robot`: the last of these sessions has the robot that the batch or
  the dialogue ends with.
* `Session.feed`: the three ways as one, for what holds of a session however it gets its lines.
-/

namespace Gridbot

/-- A line that was carried out, the session after it, and what came of the line. -/
structure Step (σ : Type := Sink) where
  line : String
  session : Session σ
  result : Except SessionError LineResult

namespace Session

variable {σ : Type} [Output σ]

/-- The steps of lines that are carried out whatever became of the ones before. -/
def singleSteps (s : Session σ) : List String → List (Step σ)
  | [] => []
  | line :: rest =>
    ⟨line, (s.executeLine line).1, (s.executeLine line).2⟩ ::
      (s.executeLine line).1.singleSteps rest

/-- The steps of a batch. -/
def batchSteps (s : Session σ) : List String → List (Step σ)
  | [] => []
  | line :: rest =>
    ⟨line, (s.executeLine line).1, (s.executeLine line).2⟩ ::
      match (s.executeLine line).2 with
      | .ok _ => (s.executeLine line).1.batchSteps rest
      | .error _ => []

/-- The steps of a dialogue. The session after a line is the one that waits for the next. -/
def dialogueSteps (s : Session σ) : List Arrival → List (Step σ)
  | .line text :: rest =>
    if isExitWord (Text.trim text) then []
    else
      ⟨text, (s.react (.line text)).1, (s.executeLine (Text.trim text)).2⟩ ::
        match (s.react (.line text)).2 with
        | .goesOn => (s.react (.line text)).1.dialogueSteps rest
        | .ends _ => []
  | _ => []

end Session

/-! ## Trimmed lines -/

theorem RobotState.respond_trim (g : Grid) (s : RobotState) (line : String) :
    s.respond g (Text.trim line) = s.respond g line := by
  simp only [RobotState.respond, Text.trim_trim]

theorem Session.executeLine_trim {σ : Type} [Output σ] (s : Session σ) (line : String) :
    s.executeLine (Text.trim line) = s.executeLine line := by
  simp only [Session.executeLine, RobotState.respond_trim]

/-! ## Flushing -/

namespace Session

section
variable {σ : Type} [Output σ] (s : Session σ)

theorem flush_grid : s.flush.1.grid = s.grid := rfl

theorem flush_robot : s.flush.1.robot = s.robot := rfl

theorem flush_log : s.flush.1.log = s.log := rfl

theorem flush_output : Output.bytes s.flush.1.sink = Output.bytes s.sink :=
  Output.bytes_flush s.sink

theorem leave_eq : s.leave = (s.flush.1, .ends s.flush.2) := rfl

end

section
variable (s : Session)

theorem flush_sink : s.flush.1.sink = s.sink.flush.1 := rfl

theorem flush_snd :
    s.flush.2 = if s.sink.refusesFlush then .error (.outputNotFlushed .flushRefused) else .ok () := by
  have h : s.flush.2 = s.sink.flush.2.mapError .outputNotFlushed := rfl
  rw [h, Sink.flush_snd]
  split <;> rfl

theorem flush_bytes : s.flush.1.sink.bytes = s.sink.bytes := by rw [flush_sink, Sink.bytes_flush]

theorem flush_refusesFlush : s.flush.1.sink.refusesFlush = s.sink.refusesFlush := by
  rw [flush_sink, Sink.refusesFlush_flush]

end

theorem flush_snd_of_accepts {s : Session} (h : s.sink.refusesFlush = false) :
    s.flush.2 = .ok () := by
  rw [flush_snd, h]
  rfl

/-! ## Reacting to a line -/

section
variable {σ : Type} [Output σ] {s : Session σ} {text : String}

theorem react_exit (h : isExitWord (Text.trim text)) : s.react (.line text) = s.leave := by
  simp only [react, h, if_true]

theorem react_line_of_error {e : SessionError} (h : ¬isExitWord (Text.trim text))
    (he : (s.executeLine text).2 = .error e) :
    s.react (.line text) = ((s.executeLine text).1, .ends (.error e)) := by
  simp only [react, h, handle, executeLine_trim]
  generalize s.executeLine text = r at he ⊢
  obtain ⟨t, r⟩ := r
  dsimp only at he
  rw [he]
  rfl

/-- A line that is carried out is followed by a flush. -/
theorem react_line_of_ok {r : LineResult} (h : ¬isExitWord (Text.trim text))
    (hr : (s.executeLine text).2 = .ok r) :
    s.react (.line text) = ((s.executeLine text).1.flush.1,
      match (s.executeLine text).1.flush.2 with
      | .ok () => .goesOn
      | .error e => .ends (.error e)) := by
  simp only [react, h, handle, executeLine_trim]
  generalize s.executeLine text = x at hr ⊢
  obtain ⟨t, x⟩ := x
  dsimp only at hr
  rw [hr]
  dsimp only
  generalize t.flush = f
  obtain ⟨f, _ | _⟩ := f <;> rfl

theorem react_line_grid (h : ¬isExitWord (Text.trim text)) :
    (s.react (.line text)).1.grid = s.grid := by
  cases hr : (s.executeLine text).2 with
  | error e => rw [react_line_of_error h hr, executeLine_grid]
  | ok r => rw [react_line_of_ok h hr, flush_grid, executeLine_grid]

end

end Session

/-! ## Steps begin where the one before ended -/

section
variable {σ : Type} [Output σ]

/-- The step carries its line out in `s`, and may flush behind it. -/
structure Step.From (s : Session σ) (e : Step σ) : Prop where
  session : e.session = (s.executeLine e.line).1 ∨ e.session = (s.executeLine e.line).1.flush.1
  result : e.result = (s.executeLine e.line).2

/-- Each step begins where the one before left the session, the first of them in `s`. -/
def Session.Leads (s : Session σ) : List (Step σ) → Prop
  | [] => True
  | e :: rest => e.From s ∧ e.session.Leads rest

namespace Step.From

variable {s : Session σ} {e : Step σ}

theorem grid (h : e.From s) : e.session.grid = s.grid := by
  rcases h.session with hs | hs <;> rw [hs]
  · exact s.executeLine_grid e.line
  · rw [Session.flush_grid, Session.executeLine_grid]

theorem robot (h : e.From s) : e.session.robot = (s.robot.obey s.grid e.line).1 := by
  rcases h.session with hs | hs <;> rw [hs]
  · exact s.executeLine_robot e.line
  · rw [Session.flush_robot, Session.executeLine_robot]

end Step.From

namespace Session

theorem leads_singleSteps (s : Session σ) (lines : List String) : s.Leads (s.singleSteps lines) := by
  induction lines generalizing s with
  | nil => trivial
  | cons line rest ih => exact ⟨⟨Or.inl rfl, rfl⟩, ih _⟩

theorem leads_batchSteps (s : Session σ) (lines : List String) : s.Leads (s.batchSteps lines) := by
  induction lines generalizing s with
  | nil => trivial
  | cons line rest ih =>
    rw [batchSteps]
    refine ⟨⟨Or.inl rfl, rfl⟩, ?_⟩
    dsimp only
    cases (s.executeLine line).2 with
    | error e => trivial
    | ok r => exact ih _

theorem leads_dialogueSteps (s : Session σ) (arrivals : List Arrival) :
    s.Leads (s.dialogueSteps arrivals) := by
  induction arrivals generalizing s with
  | nil => trivial
  | cons a rest ih =>
    cases a with
    | line text =>
      rw [dialogueSteps]
      split
      · trivial
      · rename_i hx
        rw [executeLine_trim]
        refine ⟨⟨?_, rfl⟩, ?_⟩
        · dsimp only
          cases hr : (s.executeLine text).2 with
          | error e => exact Or.inl (by rw [react_line_of_error hx hr])
          | ok r => exact Or.inr (by rw [react_line_of_ok hx hr])
        · dsimp only
          cases (s.react (.line text)).2 with
          | ends result => trivial
          | goesOn => exact ih _
    | _ => trivial

end Session

/-! ## Steps follow the course of their lines -/

/-- The robot after steps that start with a robot in state `s`. -/
def robotAfter (s : RobotState) : List (Step σ) → RobotState
  | [] => s
  | e :: rest => robotAfter e.session.robot rest

/-- Each step takes the robot from where the one before left it. -/
def Follows (g : Grid) (s : RobotState) : List (Step σ) → Prop
  | [] => True
  | e :: rest => e.session.robot = (s.obey g e.line).1 ∧ Follows g e.session.robot rest

omit [Output σ] in
theorem Follows.robotAfter_eq {g : Grid} {s : RobotState} {done rest : List (Step σ)}
    (h : Follows g s (done ++ rest)) :
    robotAfter s done = s.after g (done.map Step.line) ∧ Follows g (robotAfter s done) rest := by
  induction done generalizing s with
  | nil => exact ⟨rfl, h⟩
  | cons e done ih =>
    obtain ⟨he, h⟩ := h
    obtain ⟨h1, h2⟩ := ih h
    rw [robotAfter, List.map_cons, RobotState.after, ← he]
    exact ⟨h1, h2⟩

namespace Session

/-- Steps that each begin where the one before ended follow the course of their lines. -/
theorem Leads.follows {s : Session σ} {steps : List (Step σ)} (h : s.Leads steps) :
    Follows s.grid s.robot steps := by
  induction steps generalizing s with
  | nil => trivial
  | cons e rest ih =>
    obtain ⟨he, hrest⟩ := h
    have hfollows := ih hrest
    rw [he.grid] at hfollows
    exact ⟨he.robot, hfollows⟩

theorem follows_singleSteps (s : Session σ) (lines : List String) :
    Follows s.grid s.robot (s.singleSteps lines) := (leads_singleSteps s lines).follows

theorem follows_batchSteps (s : Session σ) (lines : List String) :
    Follows s.grid s.robot (s.batchSteps lines) := (leads_batchSteps s lines).follows

theorem follows_dialogueSteps (s : Session σ) (arrivals : List Arrival) :
    Follows s.grid s.robot (s.dialogueSteps arrivals) := (leads_dialogueSteps s arrivals).follows

/-! ## Where batches and dialogues end -/

theorem runLines_robot (s : Session σ) (lines : List String) :
    (s.runLines lines).1.robot = robotAfter s.robot (s.batchSteps lines) := by
  induction lines generalizing s with
  | nil => rfl
  | cons line rest ih =>
    rw [runLines, batchSteps, robotAfter]
    dsimp only
    generalize s.executeLine line = x
    obtain ⟨t, e | r⟩ := x
    · rfl
    · exact ih t

theorem converse_robot (s : Session σ) (arrivals : List Arrival) :
    (s.converse arrivals).1.robot = robotAfter s.robot (s.dialogueSteps arrivals) := by
  induction arrivals generalizing s with
  | nil => rfl
  | cons a rest ih =>
    rw [converse]
    cases a with
    | line text =>
      rw [dialogueSteps]
      by_cases hx : isExitWord (Text.trim text)
      · rw [react_exit hx, if_pos hx]
        rfl
      · rw [if_neg hx, robotAfter]
        dsimp only
        generalize s.react (.line text) = x
        obtain ⟨t, _ | result⟩ := x
        · exact ih t
        · rfl
    | _ => rfl

end Session

/-! ## Feeds -/

/-- Lines on their way to a session, and the way in which they come. -/
inductive Feed
  /-- One by one, each carried out whatever became of the ones before. -/
  | singly (lines : List String)
  | batch (lines : List String)
  | dialogue (arrivals : List Arrival)

/-- The steps of a session that was fed, the session after them, and how it ended. -/
structure Run (σ : Type := Sink) where
  steps : List (Step σ)
  session : Session σ
  result : Except SessionError Unit

/-- Feeds a session. -/
def Session.feed (s : Session σ) : Feed → Run σ
  | .singly lines => ⟨s.singleSteps lines, s.carry lines, .ok ()⟩
  | .batch lines => ⟨s.batchSteps lines, (s.runLines lines).1, (s.runLines lines).2⟩
  | .dialogue arrivals =>
    ⟨s.dialogueSteps arrivals, (s.converse arrivals).1, (s.converse arrivals).2⟩

theorem Session.leads_feed (s : Session σ) (feed : Feed) : s.Leads (s.feed feed).steps := by
  cases feed with
  | singly lines => exact leads_singleSteps s lines
  | batch lines => exact leads_batchSteps s lines
  | dialogue arrivals => exact leads_dialogueSteps s arrivals

end

end Gridbot
