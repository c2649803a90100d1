import Gridbot.Program
import Gridbot.Proofs.Log
import Gridbot.Proofs.Session.Dialogue

/-!
# The log as an audit trail

A session keeps three records of what it does: the log, the robot, and the bytes in its sink. The
log alone tells the robot: it is where the latest announcement left it.

A report is logged before it is written, so of the bytes the log tells less. What a line puts into
the sink is a beginning of the report that it logs. If a sink refuses one report and takes a later
one, the bytes are no beginning of all reports that were logged (`logged_reports_can_be_lost`). They
are one as long as nothing is taken behind a write that failed: in every batch and every dialogue,
which end at the first failure, and with every sink that holds so many bytes and no more. The log
here is all of it, whatever part of it a verbosity shows.

* `respond_cases`: all that a line can do, with the events that it leaves.
* `Kept.step`, `Kept.run`: the agreement of the three records, over one step and over all.
* `session_audited`: what the log of a new session tells, at every moment and in the end.
-/

namespace Gridbot

/-! ## What a log tells -/

/-- The state that a log announces last; a robot that is never announced is off the grid. -/
def lastAnnounced (log : List LogEvent) : RobotState :=
  (log.filterMap LogEvent.announced?).getLast?.getD .unplaced

/-- The placements that a log reports. -/
def logged (log : List LogEvent) : List Placement := log.filterMap LogEvent.reported?

section
variable {σ : Type} [Output σ]

/-- The report of the step could not be written. -/
def Step.NotWritten (e : Step σ) : Prop := ∃ cause, e.result = .error (.reportNotWritten cause)

/-- What a step that begins in `s` adds to the log: two events, or none if its line is blank; and a
report, if there is one among them, tells where the robot is. The sink takes a beginning of that
report, and all of it unless the write fails. -/
def Step.Noted (s : Session σ) (e : Step σ) : Prop :=
  ∃ added : List LogEvent, e.session.log.toList = s.log.toList ++ added ∧
    added.length = (if Text.trim e.line = "" then 0 else 2) ∧
    (∀ p ∈ logged added, s.robot = .placed p ∧ e.session.robot = .placed p) ∧
    ∃ taken : ByteArray, Output.bytes e.session.sink = Output.bytes s.sink ++ taken ∧
      taken.data.toList <+: (reportBytes (logged added)).data.toList ∧
      (¬e.NotWritten → taken = reportBytes (logged added))

/-- The session after steps that begin in `s`. -/
def sessionAfter (s : Session σ) : List (Step σ) → Session σ
  | [] => s
  | e :: rest => sessionAfter e.session rest

/-- Nothing is taken behind a write that failed. -/
def NothingLater (steps : List (Step σ)) : Prop :=
  steps.Pairwise fun e d =>
    e.NotWritten → Output.bytes d.session.sink = Output.bytes e.session.sink

/-- Behind the bytes `first`, the sink has a beginning of the reports that were logged. -/
def Covers (first : ByteArray) (s : Session σ) : Prop :=
  (Output.bytes s.sink).data.toList <+: (first ++ reportBytes (logged s.log.toList)).data.toList

/-- The log of a session behind the steps `done` tells where its robot is and what it wrote behind
the bytes `first`. -/
structure Audits (first : ByteArray) (done : List (Step σ)) (s : Session σ) : Prop where
  robot : s.robot = lastAnnounced s.log.toList
  written : NothingLater done → Covers first s
  complete : (∀ e ∈ done, ¬e.NotWritten) →
    Output.bytes s.sink = first ++ reportBytes (logged s.log.toList)

/-- The log of a run from `s` is an audit trail: at every moment, for every step, and in the end. -/
structure Run.Audited (s : Session σ) (run : Run σ) : Prop where
  moments : ∀ done rest, run.steps = done ++ rest →
    Audits (Output.bytes s.sink) done (sessionAfter s done)
  steps : ∀ done e rest, run.steps = done ++ e :: rest → e.Noted (sessionAfter s done)
  ending : Audits (Output.bytes s.sink) run.steps run.session

/-- The log of a run from `s` shows all that is in the sink, at every moment and in the end. -/
structure Run.Covered (s : Session σ) (run : Run σ) : Prop where
  moments : ∀ done rest, run.steps = done ++ rest →
    Covers (Output.bytes s.sink) (sessionAfter s done)
  ending : Covers (Output.bytes s.sink) run.session

end

theorem lastAnnounced_append (log added : List LogEvent) :
    lastAnnounced (log ++ added) =
      (added.filterMap LogEvent.announced?).getLast?.getD (lastAnnounced log) := by
  rw [lastAnnounced, List.filterMap_append, List.getLast?_append]
  cases (added.filterMap LogEvent.announced?).getLast? <;> rfl

theorem logged_append (log added : List LogEvent) :
    logged (log ++ added) = logged log ++ logged added := List.filterMap_append

/-! ## All that a line can do -/

namespace RobotState

/-- A command is applied, or it reports where the robot is, or it is refused. -/
theorem apply_cases (g : Grid) (s : RobotState) (c : Command) :
    (∃ t, s.apply g c = (.applied, t)) ∨
    (∃ p, s = .placed p ∧ s.apply g c = (.reported p, s)) ∨
    ∃ r, s.apply g c = (.rejected r, s) := by
  cases hn : s.next g c with
  | error r => exact Or.inr (Or.inr ⟨r, apply_of_error hn⟩)
  | ok t =>
    rcases next_cases hn with ⟨p, -, -, rfl⟩ | ⟨p, d, -, -, -, -, rfl⟩ | ⟨p, k, -, -, rfl⟩ |
      ⟨p, rfl, -, rfl⟩
    · exact Or.inl ⟨_, apply_of_ok hn⟩
    · exact Or.inl ⟨_, apply_of_ok hn⟩
    · exact Or.inl ⟨_, apply_of_ok hn⟩
    · exact Or.inr (Or.inl ⟨p, rfl, by rw [apply, hn]⟩)

/-- **Lines.** Everything a line can do, with the events that it leaves in the log. -/
theorem respond_cases (g : Grid) (s : RobotState) (line : String) :
    (Text.trim line = "" ∧ s.respond g line = ⟨.skipped, s, []⟩) ∨
    Text.trim line ≠ "" ∧
      ((∃ e, s.respond g line =
        ⟨.invalid e, s, [.executing (Text.trim line), .invalid (Text.trim line) e]⟩) ∨
      (∃ c t, s.respond g line =
        ⟨.executed c .applied, t, [.executing (Text.trim line), .applied c t]⟩) ∨
      (∃ c p, s = .placed p ∧ s.respond g line =
        ⟨.executed c (.reported p), s, [.executing (Text.trim line), .reported p]⟩) ∨
      ∃ c r, s.respond g line =
        ⟨.executed c (.rejected r), s,
          [.executing (Text.trim line), .ofOutcome c s (.rejected r)]⟩) := by
  unfold respond
  dsimp only
  by_cases hblank : Text.trim line = ""
  · exact Or.inl ⟨hblank, if_pos hblank⟩
  · refine Or.inr ⟨hblank, ?_⟩
    rw [if_neg hblank]
    cases Command.parse (Text.trim line) with
    | error e => exact Or.inl ⟨e, rfl⟩
    | ok c =>
      right
      dsimp only
      rcases apply_cases g s c with ⟨t, h⟩ | ⟨p, hs, h⟩ | ⟨r, h⟩
      · exact Or.inl ⟨c, t, by rw [h]; rfl⟩
      · exact Or.inr (Or.inl ⟨c, p, hs, by rw [h]; rfl⟩)
      · exact Or.inr (Or.inr ⟨c, r, by rw [h]⟩)

/-! ## What the events of a line tell -/

/-- An event of a refused command neither announces nor reports. -/
theorem silent_ofOutcome_rejected (c : Command) (s : RobotState) (r : Rejection) :
    (LogEvent.ofOutcome c s (.rejected r)).announced? = none ∧
      (LogEvent.ofOutcome c s (.rejected r)).reported? = none := by
  cases r <;> exact ⟨rfl, rfl⟩

/-- The events of a line announce the robot if they announce anything; if not, it stays. -/
theorem announced_respond (g : Grid) (s : RobotState) (line : String) :
    ((s.respond g line).log.filterMap LogEvent.announced?).getLast?.getD s =
      (s.obey g line).1 := by
  rw [← respond_robot]
  rcases respond_cases g s line with ⟨-, h⟩ | ⟨-, ⟨e, h⟩ | ⟨c, t, h⟩ | ⟨c, p, -, h⟩ | ⟨c, r, h⟩⟩
  · rw [h]; rfl
  · rw [h]; rfl
  · rw [h]; rfl
  · rw [h]; rfl
  · rw [h, List.filterMap_cons_none rfl,
      List.filterMap_cons_none (silent_ofOutcome_rejected c s r).1]
    rfl

/-- The events of a line report what the line reports. -/
theorem logged_respond (g : Grid) (s : RobotState) (line : String) :
    logged (s.respond g line).log = (s.obey g line).2.toList := by
  rw [← respond_report?]
  rcases respond_cases g s line with ⟨-, h⟩ | ⟨-, ⟨e, h⟩ | ⟨c, t, h⟩ | ⟨c, p, -, h⟩ | ⟨c, r, h⟩⟩
  · rw [h]; rfl
  · rw [h]; rfl
  · rw [h]; rfl
  · rw [h]; rfl
  · rw [h, logged, List.filterMap_cons_none rfl,
      List.filterMap_cons_none (silent_ofOutcome_rejected c s r).2]
    rfl

theorem length_respond_log (g : Grid) (s : RobotState) (line : String) :
    (s.respond g line).log.length = if Text.trim line = "" then 0 else 2 := by
  rcases respond_cases g s line with ⟨hb, h⟩ | ⟨hb, ⟨e, h⟩ | ⟨c, t, h⟩ | ⟨c, p, -, h⟩ | ⟨c, r, h⟩⟩
  · rw [h, if_pos hb]; rfl
  all_goals rw [h, if_neg hb]; rfl

end RobotState

/-! ## Steps -/

namespace Step.From

variable {σ : Type} [Output σ] {s : Session σ} {e : Step σ}

theorem log (h : e.From s) :
    e.session.log.toList = s.log.toList ++ (s.robot.respond s.grid e.line).log := by
  have hlog := s.executeLine_log e.line
  rcases h.session with hs | hs <;> rw [hs]
  · rw [hlog, Array.toList_appendList]
  · rw [Session.flush_log, hlog, Array.toList_appendList]

theorem output (h : e.From s) :
    Output.bytes e.session.sink = Output.bytes (s.executeLine e.line).1.sink := by
  rcases h.session with hs | hs <;> rw [hs]
  exact Session.flush_output _

/-- The sink takes a beginning of the report, and all of it unless the write fails. -/
theorem taken (h : e.From s) :
    ∃ taken : ByteArray, Output.bytes e.session.sink = Output.bytes s.sink ++ taken ∧
      taken.data.toList <+: (reportBytes (s.robot.obey s.grid e.line).2.toList).data.toList ∧
      (¬e.NotWritten → taken = reportBytes (s.robot.obey s.grid e.line).2.toList) := by
  have hsink := s.executeLine_sink e.line
  have hcases := s.executeLine_cases e.line
  rw [h.output]
  cases hp : (s.robot.obey s.grid e.line).2 with
  | none =>
    rw [hp] at hsink
    exact ⟨.empty, by rw [hsink, ByteArray.append_empty], List.nil_prefix, fun _ => rfl⟩
  | some p =>
    rw [hp] at hsink hcases
    obtain ⟨count, htaken, hwhole⟩ := Output.bytes_write s.sink p.reportLine.toUTF8
    have hline : reportBytes [p] = p.reportLine.toUTF8 := ByteArray.append_empty
    rw [Option.toList_some, hline]
    refine ⟨p.reportLine.toUTF8.extract 0 count, by rw [hsink, htaken], ?_, fun hwritten => ?_⟩
    · exact Sink.clip_prefix (some count) _
    · rcases hcases with ⟨-, hok⟩ | ⟨_, cause, -, -, herror⟩
      · have hfits : Sink.Fits (some count) p.reportLine.toUTF8.size := hwhole (hok p rfl)
        exact Sink.clip_of_fits hfits
      · exact absurd ⟨cause, h.result.trans herror⟩ hwritten

/-- A step adds to the log what its line leaves. -/
theorem noted (h : e.From s) : e.Noted s := by
  refine ⟨_, h.log, RobotState.length_respond_log .., fun p hp => ?_, ?_⟩
  · rw [RobotState.logged_respond, Option.mem_toList] at hp
    obtain ⟨-, hs, hsame⟩ := RobotState.obey_of_report hp
    exact ⟨hs, by rw [h.robot, hsame, hs]⟩
  · rw [RobotState.logged_respond]
    exact h.taken

section
variable {s : Session} {e : Step}

theorem full (h : e.From s) (hfull : s.sink.Full) :
    e.session.sink.Full ∧ e.session.sink.bytes = s.sink.bytes := by
  have hline : (s.executeLine e.line).1.sink.Full ∧
      (s.executeLine e.line).1.sink.bytes = s.sink.bytes := by
    rw [Session.executeLine_sink]
    cases (s.robot.obey s.grid e.line).2 with
    | none => exact ⟨hfull, rfl⟩
    | some p => exact ⟨hfull.write _, hfull.bytes_write _⟩
  rcases h.session with hs | hs <;> rw [hs]
  · exact hline
  · rw [Session.flush_sink]
    exact ⟨hline.1.flush, by rw [Sink.bytes_flush, hline.2]⟩

theorem full_of_notWritten (h : e.From s) (hfailed : e.NotWritten) : e.session.sink.Full := by
  obtain ⟨cause, hcause⟩ := hfailed
  rw [h.result] at hcause
  have hline : (s.executeLine e.line).1.sink.Full := by
    rcases s.executeLine_cases e.line with ⟨hok, -⟩ | ⟨p, refusal, hp, hw, -⟩
    · rw [hok] at hcause
      cases hcause
    · rw [Session.executeLine_sink, hp]
      exact Sink.full_of_write_refused hw
  rcases h.session with hs | hs <;> rw [hs]
  · exact hline
  · rw [Session.flush_sink]
    exact hline.flush

end

end Step.From

/-! ## The three records -/

section
variable {σ : Type} [Output σ] {first : ByteArray}

/-- The three records of a session agree behind the steps `done`. -/
structure Kept (first : ByteArray) (done : List (Step σ)) (s : Session σ) : Prop
    extends Audits first done s where
  /-- If nothing is taken behind a write that failed, the sink is as the write left it. -/
  unmoved : NothingLater done → ∀ e ∈ done, e.NotWritten →
    Output.bytes s.sink = Output.bytes e.session.sink

theorem kept_start (g : Grid) (out : σ) : Kept (Output.bytes out) [] (Session.start g out) where
  robot := rfl
  written := fun _ => by
    rw [Covers, show logged (Session.start g out).log.toList = [] from rfl, reportBytes,
      ByteArray.append_empty]
    exact List.prefix_refl _
  complete := fun _ => ByteArray.append_empty.symm
  unmoved := fun _ e he => absurd he (List.not_mem_nil)

/-- A step keeps the records in agreement. -/
theorem Kept.step {done : List (Step σ)} {s : Session σ} {e : Step σ} (h : Kept first done s)
    (he : e.From s) : Kept first (done ++ [e]) e.session := by
  have hlogged : reportBytes (logged e.session.log.toList) =
      reportBytes (logged s.log.toList) ++ reportBytes (s.robot.obey s.grid e.line).2.toList := by
    rw [he.log, logged_append, RobotState.logged_respond, reportBytes_append]
  obtain ⟨taken, hbytes, hprefix, hwhole⟩ := he.taken
  have hcomplete : (∀ d ∈ done, ¬d.NotWritten) → Output.bytes e.session.sink =
      first ++ reportBytes (logged s.log.toList) ++ taken := by
    intro hwritten
    rw [hbytes, h.complete hwritten]
  constructor
  · constructor
    · rw [he.robot, he.log, lastAnnounced_append, ← h.robot, RobotState.announced_respond]
    · intro hlater
      obtain ⟨hdone, -, hlast⟩ := List.pairwise_append.1 hlater
      rw [Covers, hlogged, ← ByteArray.append_assoc]
      by_cases hall : ∀ d ∈ done, ¬d.NotWritten
      · rw [hcomplete hall]
        simpa using hprefix
      · -- a write failed before, so the sink is still as it was in `s`
        obtain ⟨d, hd, hfailed⟩ : ∃ d ∈ done, d.NotWritten := by simpa using hall
        rw [hlast d hd e (List.mem_singleton_self e) hfailed, ← h.unmoved hdone d hd hfailed]
        exact (h.written hdone).trans (by simp)
    · intro hwritten
      rw [hcomplete fun d hd => hwritten d (List.mem_append_left _ hd), hlogged,
        hwhole (hwritten e (List.mem_append_right _ (List.mem_singleton_self e))),
        ByteArray.append_assoc]
  · intro hlater d hd hfailed
    rcases List.mem_append.1 hd with hd | hd
    · exact (List.pairwise_append.1 hlater).2.2 d hd e (List.mem_singleton_self e) hfailed
    · rw [List.mem_singleton.1 hd]

/-- **Agreement.** So do all steps of a session. -/
theorem Kept.run {done more : List (Step σ)} {s : Session σ} (h : Kept first done s)
    (hs : s.Leads more) : Kept first (done ++ more) (sessionAfter s more) := by
  induction more generalizing done s with
  | nil => rwa [List.append_nil]
  | cons e rest ih =>
    obtain ⟨he, hrest⟩ := hs
    have hall := ih (h.step he) hrest
    rwa [List.append_assoc, List.singleton_append] at hall

end

namespace Session

section
variable {σ : Type} [Output σ]

/-! ## Feeds -/

theorem Leads.of_append {s : Session σ} {done rest : List (Step σ)} (h : s.Leads (done ++ rest)) :
    s.Leads done ∧ (sessionAfter s done).Leads rest := by
  induction done generalizing s with
  | nil => exact ⟨trivial, h⟩
  | cons e done ih =>
    obtain ⟨he, hrest⟩ := h
    obtain ⟨h1, h2⟩ := ih hrest
    exact ⟨⟨he, h1⟩, h2⟩

/-! ## Endings -/

/-- The session differs from `t` in flushes and in a farewell at most. -/
structure EndsAs (s t : Session σ) : Prop where
  robot : s.robot = t.robot
  log : ∃ a : Arrival, s.log.toList = t.log.toList ++ a.farewell
  bytes : Output.bytes s.sink = Output.bytes t.sink

theorem EndsAs.refl (s : Session σ) : s.EndsAs s :=
  ⟨rfl, ⟨.unreadable, (List.append_nil _).symm⟩, rfl⟩

theorem flush_endsAs (s : Session σ) : s.flush.1.EndsAs s :=
  ⟨flush_robot s, ⟨.unreadable, (List.append_nil _).symm⟩, flush_output s⟩

theorem carry_endsAs (s : Session σ) (lines : List String) :
    (s.carry lines).EndsAs (sessionAfter s (s.singleSteps lines)) := by
  induction lines generalizing s with
  | nil => exact .refl s
  | cons line rest ih =>
    rw [carry]
    exact ih _

theorem runLines_endsAs (s : Session σ) (lines : List String) :
    (s.runLines lines).1.EndsAs (sessionAfter s (s.batchSteps lines)) := by
  induction lines generalizing s with
  | nil => exact flush_endsAs s
  | cons line rest ih =>
    cases hr : (s.executeLine line).2 with
    | error e =>
      rw [runLines_of_error hr, batchSteps, hr]
      exact .refl _
    | ok r =>
      rw [runLines_of_ok hr, batchSteps, hr]
      exact ih _

theorem converse_endsAs (s : Session σ) (arrivals : List Arrival) :
    (s.converse arrivals).1.EndsAs (sessionAfter s (s.dialogueSteps arrivals)) := by
  -- a closing arrival ends a dialogue where it waits
  have hcloses : ∀ (t : Session σ) (a : Arrival) (rest : List Arrival), a.closes →
      (t.converse (a :: rest)).1.EndsAs t := by
    intro t a rest ha
    obtain ⟨u, result, hu, hrobot, hlog, hbytes, -⟩ := react_of_closes ha t
    rw [converse_of_ends hu]
    exact ⟨hrobot, ⟨a, hlog⟩, hbytes⟩
  induction arrivals generalizing s with
  | nil => exact hcloses s .endOfInput [] rfl
  | cons a rest ih =>
    cases ha : a.closes with
    | true =>
      rw [dialogueSteps_of_closes ha]
      exact hcloses s a rest ha
    | false =>
      obtain ⟨text, rfl, hx⟩ := exists_line_of_not_closes ha
      rw [dialogueSteps, if_neg hx, sessionAfter]
      cases hr : s.react (.line text) with
      | mk t progress =>
        cases progress with
        | goesOn =>
          rw [converse_of_goesOn hr]
          exact ih t
        | ends result =>
          rw [converse_of_ends hr]
          exact .refl t

theorem feed_endsAs (s : Session σ) (feed : Feed) :
    (s.feed feed).session.EndsAs (sessionAfter s (s.feed feed).steps) := by
  cases feed with
  | singly lines => exact carry_endsAs s lines
  | batch lines => exact runLines_endsAs s lines
  | dialogue arrivals => exact converse_endsAs s arrivals

end

/-! ## Failures that end it -/

section
variable {σ : Type} [Output σ]

theorem nothingLater_cons_of_ok {e : Step σ} {rest : List (Step σ)} {r : LineResult}
    (hr : e.result = .ok r) (h : NothingLater rest) : NothingLater (e :: rest) := by
  refine List.pairwise_cons.2 ⟨fun d _ hfailed => ?_, h⟩
  obtain ⟨cause, hcause⟩ := hfailed
  cases hr.symm.trans hcause

/-- A batch ends at the first failure. -/
theorem nothingLater_batchSteps (s : Session σ) (lines : List String) :
    NothingLater (s.batchSteps lines) := by
  induction lines generalizing s with
  | nil => exact .nil
  | cons line rest ih =>
    rw [batchSteps]
    cases hr : (s.executeLine line).2 with
    | error e => exact List.pairwise_singleton _ _
    | ok r => exact nothingLater_cons_of_ok rfl (ih _)

/-- So does a dialogue. -/
theorem nothingLater_dialogueSteps (s : Session σ) (arrivals : List Arrival) :
    NothingLater (s.dialogueSteps arrivals) := by
  induction arrivals generalizing s with
  | nil => exact .nil
  | cons a rest ih =>
    cases ha : a.closes with
    | true =>
      rw [dialogueSteps_of_closes ha]
      exact .nil
    | false =>
      obtain ⟨text, rfl, hx⟩ := exists_line_of_not_closes ha
      rw [dialogueSteps, if_neg hx, executeLine_trim]
      cases hr : (s.executeLine text).2 with
      | error e =>
        rw [react_line_of_error hx hr]
        exact List.pairwise_singleton _ _
      | ok r =>
        refine nothingLater_cons_of_ok rfl ?_
        cases (s.react (.line text)).2 with
        | goesOn => exact ih _
        | ends result => exact .nil

end

/-- Nothing moves the bytes of a full sink. -/
theorem Leads.bytes_of_full {s : Session} {steps : List Step} (h : s.Leads steps)
    (hfull : s.sink.Full) : ∀ d ∈ steps, d.session.sink.bytes = s.sink.bytes := by
  induction steps generalizing s with
  | nil => exact fun d hd => absurd hd List.not_mem_nil
  | cons e rest ih =>
    obtain ⟨he, hrest⟩ := h
    obtain ⟨hfull', hbytes⟩ := he.full hfull
    intro d hd
    rcases List.mem_cons.1 hd with rfl | hd
    · exact hbytes
    · exact (ih hrest hfull' d hd).trans hbytes

/-- A sink that refused a write takes nothing more. -/
theorem Leads.nothingLater {s : Session} {steps : List Step} (h : s.Leads steps) :
    NothingLater steps := by
  induction steps generalizing s with
  | nil => exact .nil
  | cons e rest ih =>
    obtain ⟨he, hrest⟩ := h
    exact List.pairwise_cons.2
      ⟨fun d hd hfailed => hrest.bytes_of_full (he.full_of_notWritten hfailed) d hd, ih hrest⟩

end Session

/-! ## Audits -/

section
variable {σ : Type} [Output σ]

/-- Flushes and a farewell change nothing of what the log tells. -/
theorem Audits.of_endsAs {first : ByteArray} {done : List (Step σ)} {s t : Session σ}
    (h : Audits first done t) (hend : s.EndsAs t) : Audits first done s := by
  obtain ⟨hrobot, ⟨a, hlog⟩, hbytes⟩ := hend
  have hsilent : a.farewell.filterMap LogEvent.announced? = [] ∧ logged a.farewell = [] := by
    cases a <;> exact ⟨rfl, rfl⟩
  have hlast : lastAnnounced s.log.toList = lastAnnounced t.log.toList := by
    rw [hlog, lastAnnounced_append, hsilent.1]
    rfl
  have hlogged : logged s.log.toList = logged t.log.toList := by
    rw [hlog, logged_append, hsilent.2, List.append_nil]
  exact {
    robot := by rw [hrobot, hlast, h.robot]
    written := by
      rw [Covers, hbytes, hlogged]
      exact h.written
    complete := by
      rw [hbytes, hlogged]
      exact h.complete }

/-- Whatever the output, the log of a new session is an audit trail. -/
theorem audited_feed (g : Grid) (out : σ) (feed : Feed) :
    ((Session.start g out).feed feed).Audited (Session.start g out) := by
  have hleads := Session.leads_feed (Session.start g out) feed
  have hnew := kept_start g out
  exact {
    moments := by
      intro done rest hsteps
      rw [hsteps] at hleads
      exact (hnew.run hleads.of_append.1).toAudits
    steps := by
      intro done e rest hsteps
      rw [hsteps] at hleads
      exact hleads.of_append.2.1.noted
    ending := (hnew.run hleads).toAudits.of_endsAs (Session.feed_endsAs _ feed) }

theorem Run.Audited.covered {s : Session σ} {run : Run σ} (h : run.Audited s)
    (hlater : NothingLater run.steps) : run.Covered s where
  moments := by
    intro done rest hsteps
    rw [hsteps] at hlater
    exact (h.moments done rest hsteps).written (List.pairwise_append.1 hlater).1
  ending := h.ending.written hlater

end

/-- **The log is an audit trail.** In a new session, however it gets its lines and whatever the sink
does, the log tells at every moment where the robot is. Each line that is not blank leaves two
messages and each blank line none, and a report shows where the robot is. The sink takes a beginning
of each report that is logged, and the whole report unless the write fails. So the bytes in the sink
are those of all reports as long as every report was written. They are a beginning of these as long
as nothing is taken behind a write that failed, and so in every batch, in every dialogue, and with
every sink that has a capacity. What an event announces or reports is what its message shows. -/
theorem session_audited :
    (∀ (σ : Type) [Output σ] (g : Grid) (out : σ) (feed : Feed),
      ((Session.start g out).feed feed).Audited (Session.start g out)) ∧
    (∀ (σ : Type) [Output σ] (g : Grid) (out : σ),
      (∀ lines, ((Session.start g out).feed (.batch lines)).Covered (Session.start g out)) ∧
      ∀ arrivals, ((Session.start g out).feed (.dialogue arrivals)).Covered (Session.start g out)) ∧
    (∀ (g : Grid) (sink : Sink) (feed : Feed),
      ((Session.start g sink).feed feed).Covered (Session.start g sink)) ∧
    ∀ e : LogEvent,
      (∀ t, e.announced? = some t ↔
        ∃ c : Command, e.message = c.text ++ ": robot now at " ++ t.describe) ∧
      ∀ p, e.reported? = some p ↔ e.message = p.report := by
  refine ⟨fun σ _ g out feed => audited_feed g out feed, fun σ _ g out => ⟨?_, ?_⟩, ?_,
    fun e => ⟨fun t => LogEvent.announced?_eq_some_iff, fun p => LogEvent.reported?_eq_some_iff⟩⟩
  · exact fun lines => (audited_feed g out _).covered (Session.nothingLater_batchSteps _ lines)
  · exact fun arrivals =>
      (audited_feed g out _).covered (Session.nothingLater_dialogueSteps _ arrivals)
  · exact fun g sink feed =>
      (audited_feed g sink feed).covered (Session.leads_feed _ feed).nothingLater

/-! ## Gaps in the trail -/

/-- An output that may be busy at first. It refuses one write then, and takes all later ones. -/
structure BusyAtFirst where
  busy : Bool
  bytes : ByteArray := .empty

instance : Output BusyAtFirst where
  write s data :=
    if s.busy then (⟨false, s.bytes⟩, .error (.other "busy"))
    else (⟨false, s.bytes ++ data⟩, .ok ())
  flush s := (s, .ok ())
  bytes := BusyAtFirst.bytes
  bytes_write s data := by
    cases hbusy : s.busy with
    | true => exact ⟨0, by simp, by simp⟩
    | false => exact ⟨data.size, by simp, by simp⟩
  bytes_flush _ := rfl

/-- A log with the debug messages left out shows one message for a line that leaves two. And if the
first report is not written and the second is, the sink has no beginning of what the log reports. -/
theorem logged_reports_can_be_lost :
    let g : Grid := ⟨5, 5, [], by decide, by decide, .nil⟩
    let out : BusyAtFirst := { busy := true }
    let lines := ["PLACE 0,0,NORTH", "REPORT", "MOVE", "REPORT"]
    let s := ((Session.start g out).feed (.singly lines)).session
    let fs : FileSystem := ⟨fun _ => .ok .other, fun _ => .ok (.ok .empty)⟩
    (Program.run fs "PLACE 0,0,NORTH\nREPORT\n".toUTF8 ["--log-level", "info"]).stderr =
      " INFO grid_robot: grid_robot v0.1.0 running...\n" ++
      " INFO grid_robot::interpreter: Grid initialized with length: 5 and width: 5\n" ++
      " INFO grid_robot::interpreter: PLACE 0,0,NORTH: robot now at " ++
        "Placed(Placement \x7b x: 0, y: 0, heading: North \x7d)\n" ++
      " INFO grid_robot::interpreter: 0,0,NORTH\n" ++
      " INFO grid_robot::interpreter: Eof\n" ∧
    reportBytes (logged s.log.toList) = "0,0,NORTH\n0,1,NORTH\n".toUTF8 ∧
    Output.bytes s.sink = "0,1,NORTH\n".toUTF8 ∧
    ¬Covers .empty s := by
  intro g out lines s fs
  have hlogged : reportBytes (logged s.log.toList) = "0,0,NORTH\n0,1,NORTH\n".toUTF8 := rfl
  have hbytes : Output.bytes s.sink = "0,1,NORTH\n".toUTF8 := rfl
  refine ⟨?_, hlogged, hbytes, ?_⟩
  · decide +kernel
  · rw [Covers, hlogged, hbytes]
    decide

end Gridbot
