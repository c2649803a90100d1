import Gridbot.Proofs.Session.Checkpoint

/-!
# Lines without effect

A line that is blank, that is no instruction, or whose command is refused changes nothing that later
lines depend on. A line that is carried out can be replaced by the text of its command. So a run can
be thinned: steps without effect may be left out, lines of commands may be replaced by the texts of
these commands, and what is left shows the same results, robots and bytes as before.

**Thinned.** `Thinned steps kept` derives the thinnings of a run: each step that is kept, with the
line that now stands for it. `accepted` is the one that keeps just the accepted commands, by their
texts.

* `Twin.executeLine`: sessions that differ in their logs at most stay so over lines that mean the
  same.
* `Twin.thinned`: the steps of a thinned run, by induction over the run.
* `thinned_reproduces`: any thinning, and that to the accepted commands, of a new session.
-/

namespace Gridbot

/-- The line did nothing: it was blank, no instruction, or refused. -/
def LineResult.isIdle : LineResult → Bool
  | skipped | invalid _ | executed _ (.rejected _) => true
  | executed _ _ => false

namespace Step

/-- The line of the step did nothing. -/
def isIdle (e : Step) : Bool :=
  match e.result with
  | .ok r => r.isIdle
  | .error _ => false

/-- The command that the step carried out. -/
def command? (e : Step) : Option Command :=
  match e.result with
  | .ok (.executed c _) => some c
  | _ => none

/-- What the step shows: what came of its line, the robot, and all bytes written so far. -/
def effect (e : Step) : Except SessionError LineResult × RobotState × ByteArray :=
  (e.result, e.session.robot, e.session.sink.bytes)

end Step

/-- A thinning of a run: the steps that are kept, each with the line that stands for it. -/
inductive Thinned : List Step → List (Step × String) → Prop
  | nil : Thinned [] []
  /-- A step that did nothing may be left out. -/
  | drop {e : Step} {steps : List Step} {kept : List (Step × String)} (h : e.isIdle)
      (rest : Thinned steps kept) : Thinned (e :: steps) kept
  | keep {e : Step} {steps : List Step} {kept : List (Step × String)}
      (rest : Thinned steps kept) : Thinned (e :: steps) ((e, e.line) :: kept)
  /-- The text of the command may stand for the line. -/
  | rewrite {e : Step} {steps : List Step} {kept : List (Step × String)} {c : Command}
      (h : e.command? = some c) (rest : Thinned steps kept) :
      Thinned (e :: steps) ((e, c.text) :: kept)

/-- The accepted commands of a run, by their texts. -/
def accepted (steps : List Step) : List (Step × String) :=
  steps.filterMap fun e => if e.isIdle then none else e.command?.map fun c => (e, c.text)

namespace Session

/-- The sessions differ in their logs at most. -/
structure Twin (s t : Session) : Prop where
  grid : s.grid = t.grid
  robot : s.robot = t.robot
  sink : s.sink = t.sink

/-- Carried out in `s`, the lines that were kept of a run show what they showed in the run of
`lines`, and the session ends up with the same robot and the same bytes. -/
structure Reproduces (s : Session) (lines : List String) (kept : List (Step × String)) : Prop where
  effects : (s.singleSteps (kept.map Prod.snd)).map Step.effect = kept.map fun k => k.1.effect
  robot : (s.carry (kept.map Prod.snd)).robot = (s.carry lines).robot
  bytes : (s.carry (kept.map Prod.snd)).sink.bytes = (s.carry lines).sink.bytes

end Session

namespace RobotState

/-! ## Lines that do nothing -/

/-- A line that did nothing leaves the robot and reports nothing. -/
theorem obey_of_isIdle {g : Grid} {s : RobotState} {line : String}
    (h : (s.respond g line).result.isIdle) : s.obey g line = (s, none) := by
  cases hc : Command.parse (Text.trim line) with
  | error e => exact obey_of_parse_error hc
  | ok c =>
    rw [respond_of_parse hc] at h
    unfold obey
    rw [hc]
    dsimp only
    cases hn : s.next g c with
    | error r => rfl
    | ok t =>
      -- an accepted command is applied or reported
      obtain ⟨t, _ | p⟩ := t
      · rw [apply_of_ok hn] at h
        cases h
      · rw [apply, hn] at h
        cases h

/-! ## Lines that mean the same -/

theorem parse_of_executed {g : Grid} {s : RobotState} {line : String} {c : Command} {o : Outcome}
    (h : (s.respond g line).result = .executed c o) : Command.parse (Text.trim line) = .ok c := by
  unfold respond at h
  dsimp only at h
  split at h
  · cases h
  · cases hc : Command.parse (Text.trim line) with
    | error e =>
      rw [hc] at h
      cases h
    | ok d =>
      rw [hc] at h
      cases h
      rfl

/-- The text of a command does what a line that was carried out as the command does. -/
theorem respond_text_of_executed {g : Grid} {s : RobotState} {line : String} {c : Command}
    {o : Outcome} (h : (s.respond g line).result = .executed c o) :
    (s.respond g c.text).result = (s.respond g line).result ∧
      s.obey g c.text = s.obey g line := by
  have hline := parse_of_executed h
  have htext : Command.parse (Text.trim c.text) = .ok c :=
    Command.parse_trim_of_padded (Text.Padded.refl c.text)
  constructor
  · rw [respond_of_parse htext, respond_of_parse hline]
  · unfold obey
    rw [htext, hline]

end RobotState

namespace Session

/-! ## Sessions that differ in their logs -/

theorem Twin.refl (s : Session) : Twin s s := ⟨rfl, rfl, rfl⟩

/-- Lines that mean the same to the robot do the same to sessions that are twins. -/
theorem Twin.executeLine {s t : Session} (h : Twin s t) (line text : String)
    (hresult : (s.robot.respond s.grid line).result = (s.robot.respond s.grid text).result)
    (hobey : s.robot.obey s.grid line = s.robot.obey s.grid text) :
    Twin (s.executeLine line).1 (t.executeLine text).1 ∧
      (s.executeLine line).2 = (t.executeLine text).2 := by
  have hrobot : (s.robot.respond s.grid line).robot = (s.robot.respond s.grid text).robot := by
    rw [RobotState.respond_robot, RobotState.respond_robot, hobey]
  obtain ⟨g, robot, log, sink⟩ := s
  obtain ⟨g', robot', log', sink'⟩ := t
  obtain ⟨hg, hr, hs⟩ := h
  dsimp only at hg hr hs hresult hrobot
  subst hg hr hs
  unfold Session.executeLine
  dsimp only
  rw [hresult, hrobot]
  split
  · exact ⟨⟨rfl, rfl, rfl⟩, rfl⟩
  · exact ⟨⟨rfl, rfl, rfl⟩, rfl⟩

/-- A line that did nothing leaves a twin. -/
theorem Twin.executeLine_of_isIdle {s t : Session} (h : Twin s t) {line : String} {r : LineResult}
    (hr : (s.executeLine line).2 = .ok r) (hidle : r.isIdle) :
    Twin (s.executeLine line).1 t := by
  rw [executeLine_snd_of_ok hr] at hidle
  have hobey := RobotState.obey_of_isIdle hidle
  exact {
    grid := by rw [executeLine_grid, h.grid]
    robot := by rw [executeLine_robot, hobey, h.robot]
    sink := by rw [executeLine_sink, hobey, h.sink] }

/-! ## Thinned runs -/

/-- The step of a command was carried out as the command. -/
theorem result_of_command? {e : Step} {c : Command} (h : e.command? = some c) :
    ∃ o, e.result = .ok (.executed c o) := by
  unfold Step.command? at h
  split at h
  · rename_i d o hr
    cases h
    exact ⟨o, hr⟩
  · cases h

/-- A step that is kept has the effect of the line that stands for it. -/
theorem Twin.effects_cons {s t : Session} {line text : String}
    (h : Twin (s.executeLine line).1 (t.executeLine text).1)
    (hresult : (s.executeLine line).2 = (t.executeLine text).2) {kept : List (Step × String)}
    (hrest : ((t.executeLine text).1.singleSteps (kept.map Prod.snd)).map Step.effect =
      kept.map fun k => k.1.effect) :
    (t.singleSteps (text :: kept.map Prod.snd)).map Step.effect =
      Step.effect ⟨line, (s.executeLine line).1, (s.executeLine line).2⟩ ::
        kept.map fun k => k.1.effect := by
  rw [singleSteps, List.map_cons, hrest]
  simp only [Step.effect, hresult, h.robot, h.sink]

/-- **Thinning.** Twins go through a run and through any thinning of it with the same effects, and
are twins in the end. The induction is over the run, with a case for what becomes of its first
step. -/
theorem Twin.thinned {s t : Session} (h : Twin s t) {lines : List String}
    {kept : List (Step × String)} (hk : Thinned (s.singleSteps lines) kept) :
    (t.singleSteps (kept.map Prod.snd)).map Step.effect = kept.map (fun k => k.1.effect) ∧
      Twin (s.carry lines) (t.carry (kept.map Prod.snd)) := by
  induction lines generalizing s t kept with
  | nil =>
    rw [singleSteps] at hk
    cases hk
    exact ⟨rfl, h⟩
  | cons line rest ih =>
    rw [singleSteps] at hk
    rw [carry]
    cases hk with
    | drop hidle hrest =>
      unfold Step.isIdle at hidle
      dsimp only at hidle
      split at hidle
      · rename_i r hr
        exact ih (h.executeLine_of_isIdle hr hidle) hrest
      · cases hidle
    | keep hrest =>
      obtain ⟨htwin, hresult⟩ := h.executeLine line line rfl rfl
      obtain ⟨heffects, hend⟩ := ih htwin hrest
      rw [List.map_cons, List.map_cons, carry]
      exact ⟨htwin.effects_cons hresult heffects, hend⟩
    | @rewrite _ _ _ c hc hrest =>
      obtain ⟨o, ho⟩ := result_of_command? hc
      obtain ⟨hsame, hobey⟩ :=
        RobotState.respond_text_of_executed (executeLine_snd_of_ok ho).symm
      obtain ⟨htwin, hresult⟩ := h.executeLine line c.text hsame.symm hobey.symm
      obtain ⟨heffects, hend⟩ := ih htwin hrest
      rw [List.map_cons, List.map_cons, carry]
      exact ⟨htwin.effects_cons hresult heffects, hend⟩

/-- A thinning of a session's run reproduces it. -/
theorem reproduces_of_thinned {s : Session} {lines : List String} {kept : List (Step × String)}
    (hk : Thinned (s.singleSteps lines) kept) : Reproduces s lines kept := by
  obtain ⟨heffects, hend⟩ := (Twin.refl s).thinned hk
  exact ⟨heffects, hend.robot.symm, by rw [hend.sink]⟩

/-! ## The accepted commands -/

/-- On a sink without a limit, every step does nothing or has a command, so that the accepted
commands are a thinning. -/
theorem thinned_accepted {s : Session} (h : s.sink.capacity = none) (lines : List String) :
    Thinned (s.singleSteps lines) (accepted (s.singleSteps lines)) := by
  induction lines generalizing s with
  | nil => exact .nil
  | cons line rest ih =>
    have hrest := ih (s := (s.executeLine line).1) (by rw [executeLine_capacity, h])
    have hresult := executeLine_snd_of_unlimited h line
    rw [singleSteps, accepted, List.filterMap_cons]
    cases hidle : Step.isIdle ⟨line, (s.executeLine line).1, (s.executeLine line).2⟩ with
    | true => exact .drop hidle hrest
    | false =>
      unfold Step.isIdle at hidle
      dsimp only at hidle
      rw [hresult] at hidle
      have hcommand : ∃ c o, (s.robot.respond s.grid line).result = .executed c o := by
        cases hr : (s.robot.respond s.grid line).result with
        | executed c o => exact ⟨c, o, rfl⟩
        | _ =>
          rw [hr] at hidle
          cases hidle
      obtain ⟨c, o, hc⟩ := hcommand
      have hsome :
          Step.command? ⟨line, (s.executeLine line).1, (s.executeLine line).2⟩ = some c := by
        simp only [Step.command?, hresult, hc]
      simp only [Bool.false_eq_true, if_false, hsome, Option.map_some]
      exact .rewrite hsome hrest

theorem isIdle_eq_false_of_mem_accepted {steps : List Step} {k : Step × String}
    (h : k ∈ accepted steps) : k.1.isIdle = false := by
  obtain ⟨e, -, hk⟩ := List.mem_filterMap.1 h
  split at hk
  · cases hk
  · rename_i hidle
    obtain ⟨c, -, rfl⟩ := Option.map_eq_some_iff.1 hk
    exact Bool.eq_false_iff.2 hidle

/-- Every command is accepted again when the accepted commands are carried out. -/
theorem isIdle_eq_false_of_reproduces {s : Session} {lines : List String}
    (h : Reproduces s lines (accepted (s.singleSteps lines))) :
    ∀ e ∈ s.singleSteps ((accepted (s.singleSteps lines)).map Prod.snd), e.isIdle = false := by
  intro e he
  have heffect := List.mem_map_of_mem (f := Step.effect) he
  rw [h.effects] at heffect
  obtain ⟨k, hk, hke⟩ := List.mem_map.1 heffect
  have hresult : e.result = k.1.result := (congrArg Prod.fst hke).symm
  unfold Step.isIdle
  rw [hresult]
  exact isIdle_eq_false_of_mem_accepted hk

/-- **Lines without effect are transparent.** In a new session on a sink without a limit, any steps
that did nothing can be left out of a run and any lines of commands replaced by the texts of their
commands: what is left shows the same results, robots and bytes. In particular the accepted
commands, by their texts, reproduce the run, and each is accepted again. -/
theorem thinned_reproduces (g : Grid) (refusesFlush : Bool) (lines : List String) :
    let s := fresh g none refusesFlush
    (∀ kept, Thinned (s.singleSteps lines) kept → Reproduces s lines kept) ∧
    Reproduces s lines (accepted (s.singleSteps lines)) ∧
    ∀ e ∈ s.singleSteps ((accepted (s.singleSteps lines)).map Prod.snd), e.isIdle = false := by
  intro s
  have haccepted := reproduces_of_thinned (thinned_accepted (s := s) rfl lines)
  exact ⟨fun _ => reproduces_of_thinned, haccepted, isIdle_eq_false_of_reproduces haccepted⟩

/-- A run with lines of all kinds, thinned in part: one of its two refused moves stays. -/
theorem thinned_reproduces_walk :
    let g : Grid := ⟨5, 5, [], by decide, by decide, .nil⟩
    let s := fresh g none false
    let lines := ["MOVE", " PLACE 00, 4,WEST\t", "jump", "MOVE", "", " RIGHT", "REPORT"]
    ∃ kept, Thinned (s.singleSteps lines) kept ∧
      kept.map Prod.snd = ["PLACE 0,4,WEST", "MOVE", "", "RIGHT", "REPORT"] ∧
      Reproduces s lines kept ∧
      ∃ e ∈ s.singleSteps ((accepted (s.singleSteps lines)).map Prod.snd), e.isIdle = false := by
  intro g s lines
  obtain ⟨hthinned, -, haccepted⟩ := thinned_reproduces g false lines
  have hkept : Thinned (s.singleSteps lines) _ :=
    .drop (by decide +kernel) <| .rewrite (c := .place ⟨⟨0, 4⟩, .west⟩) (by decide +kernel) <|
      .drop (by decide +kernel) <| .keep <| .keep <|
      .rewrite (c := .right) (by decide +kernel) <| .keep .nil
  refine ⟨_, hkept, by decide +kernel, hthinned _ hkept, ?_⟩
  exact ⟨_, List.mem_cons_self, haccepted _ List.mem_cons_self⟩

end Session

end Gridbot
