import Gridbot.Proofs.Session.Batch

/-!
# Dialogues and batches

A dialogue puts to its robot the lines in front of the first arrival that closes it: an exit word,
an interrupt, the end of the input or a line that cannot be read. On a sink that accepts flushes it
does what a batch of these lines does. It flushes more often, and it may have a farewell to log.

**Alike.** Two sessions are alike if they differ in nothing but their count of flushes and of
settled bytes. A line keeps them alike and has the same result in both; a flush of either keeps
them alike.

**Heard.** `lastHeard` is the arrival at which a dialogue ends: the closing one if all goes well,
the line whose report cannot be written otherwise.

* `converse_mirrors`: from sessions that are alike, a dialogue mirrors the batch.
* `converse_eq_converse_spoken`: what arrives behind the closing arrival has no influence.
* `converse_as_batch`: both, of a new session.
-/

namespace Gridbot

namespace Arrival

/-- The arrival ends a dialogue. -/
def closes : Arrival → Bool
  | .line text => isExitWord (Text.trim text)
  | _ => true

/-- What a dialogue that ends at this arrival logs last. -/
def farewell : Arrival → List LogEvent
  | .interrupt => [.interrupted]
  | .endOfInput => [.endOfInput]
  | _ => []

/-- The text of the farewell. -/
def farewellText : Arrival → List String
  | .interrupt => ["Interrupted"]
  | .endOfInput => ["Eof"]
  | _ => []

theorem farewell_message (a : Arrival) : a.farewell.map LogEvent.message = a.farewellText := by
  cases a <;> rfl

end Arrival

/-- The lines in front of the first closing arrival. -/
def spoken : List Arrival → List String
  | .line text :: rest => if isExitWord (Text.trim text) then [] else text :: spoken rest
  | _ => []

/-- The first closing arrival. When nothing arrives any more, the input is at its end. An interrupt
brings nothing of a line that was typed in part. -/
def closing (arrivals : List Arrival) : Arrival := (arrivals.find? Arrival.closes).getD .endOfInput

namespace Session

/-- The arrival at which a dialogue ends. -/
def lastHeard {σ : Type} [Output σ] (s : Session σ) : List Arrival → Arrival
  | [] => .endOfInput
  | a :: rest =>
    match s.react a with
    | (t, .goesOn) => t.lastHeard rest
    | (_, .ends _) => a

/-- The sessions differ in their flushes at most. -/
structure Alike (s t : Session) : Prop where
  grid : s.grid = t.grid
  robot : s.robot = t.robot
  log : s.log = t.log
  capacity : s.sink.capacity = t.sink.capacity
  refusesFlush : s.sink.refusesFlush = t.sink.refusesFlush
  bytes : s.sink.bytes = t.sink.bytes

/-- A run failed to write a report. -/
def NotWritten (run : Session × Except SessionError Unit) : Prop :=
  run.2.mapError SessionError.message = .error "failed to write report"

/-- A dialogue that ended at `last` did what a batch of the lines spoken did, and logged its
farewell. If all reports were written, `last` is the closing arrival and it alone settles the
result; if not, `last` is the line whose report was not. -/
structure Mirrors (arrivals : List Arrival) (last : Arrival)
    (dialogue batch : Session × Except SessionError Unit) : Prop where
  bytes : dialogue.1.sink.bytes = batch.1.sink.bytes
  robot : dialogue.1.robot = batch.1.robot
  log : dialogue.1.log.toList = batch.1.log.toList ++ last.farewell
  messages : dialogue.1.log.toList.map LogEvent.message =
    batch.1.log.toList.map LogEvent.message ++ last.farewellText
  notWritten : NotWritten dialogue ↔ NotWritten batch
  result : ¬NotWritten batch → dialogue.2.mapError SessionError.message =
    if last = .unreadable then .error "failed to read line" else .ok ()
  closed : ¬NotWritten batch → last = closing arrivals
  cutOff : NotWritten batch → ∃ text ∈ spoken arrivals, last = .line text

/-! ## Lines spoken and closing arrivals -/

theorem spoken_cons_of_not_exit {text : String} (hx : ¬isExitWord (Text.trim text))
    (rest : List Arrival) : spoken (.line text :: rest) = text :: spoken rest := if_neg hx

theorem closing_cons_of_not_exit {text : String} (hx : ¬isExitWord (Text.trim text))
    (rest : List Arrival) : closing (.line text :: rest) = closing rest := by
  simp only [closing, List.find?_cons, Arrival.closes, hx]

theorem exists_line_of_not_closes {a : Arrival} (ha : a.closes = false) :
    ∃ text, a = .line text ∧ ¬isExitWord (Text.trim text) := by
  cases a with
  | line text =>
    have hx : isExitWord (Text.trim text) = false := ha
    exact ⟨text, rfl, by rw [hx]; exact Bool.false_ne_true⟩
  | _ => cases ha

theorem spoken_of_closes {a : Arrival} (ha : a.closes) (rest : List Arrival) :
    spoken (a :: rest) = [] := by
  cases a with
  | line text => exact if_pos ha
  | _ => rfl

theorem closing_of_closes {a : Arrival} (ha : a.closes) (rest : List Arrival) :
    closing (a :: rest) = a := by
  simp only [closing, List.find?_cons, ha, Option.getD_some]

section
variable {σ : Type} [Output σ]

/-- A closing arrival changes nothing but the log and the flushes. -/
theorem react_of_closes {a : Arrival} (ha : a.closes) (s : Session σ) :
    ∃ t result, s.react a = (t, .ends result) ∧
      t.robot = s.robot ∧ t.log.toList = s.log.toList ++ a.farewell ∧
      Output.bytes t.sink = Output.bytes s.sink ∧
      (s.flush.2 = .ok () →
        result = if a = .unreadable then .error .lineNotRead else .ok ()) := by
  cases a with
  | line text =>
    have hreact : s.react (.line text) = (s.flush.1, .ends s.flush.2) := react_exit ha
    refine ⟨s.flush.1, s.flush.2, hreact, flush_robot s, ?_, flush_output s, id⟩
    exact (List.append_nil _).symm
  | interrupt =>
    let t := s.note .interrupted
    refine ⟨t.flush.1, t.flush.2, leave_eq t, flush_robot t, ?_, flush_output t, id⟩
    exact Array.toList_push
  | endOfInput =>
    let t := s.note .endOfInput
    refine ⟨t.flush.1, t.flush.2, leave_eq t, flush_robot t, ?_, flush_output t, id⟩
    exact Array.toList_push
  | unreadable => exact ⟨s, _, rfl, rfl, (List.append_nil _).symm, rfl, fun _ => rfl⟩

/-! ## The first arrival of a dialogue -/

/-- When nothing arrives any more, the input is at its end. -/
theorem converse_nil (s : Session σ) : s.converse [] = s.converse [.endOfInput] := rfl

theorem converse_of_goesOn {s t : Session σ} {a : Arrival} (h : s.react a = (t, .goesOn))
    (rest : List Arrival) : s.converse (a :: rest) = t.converse rest := by
  rw [converse, h]

theorem converse_of_ends {s t : Session σ} {a : Arrival} {result : Except SessionError Unit}
    (h : s.react a = (t, .ends result)) (rest : List Arrival) :
    s.converse (a :: rest) = (t, result) := by
  rw [converse, h]

theorem lastHeard_of_goesOn {s t : Session σ} {a : Arrival} (h : s.react a = (t, .goesOn))
    (rest : List Arrival) : s.lastHeard (a :: rest) = t.lastHeard rest := by
  rw [lastHeard, h]

theorem lastHeard_of_ends {s t : Session σ} {a : Arrival} {result : Except SessionError Unit}
    (h : s.react a = (t, .ends result)) (rest : List Arrival) : s.lastHeard (a :: rest) = a := by
  rw [lastHeard, h]

/-! ## What a dialogue carries out -/

theorem dialogueSteps_of_closes {a : Arrival} (ha : a.closes) (s : Session σ) (rest : List Arrival) :
    s.dialogueSteps (a :: rest) = [] := by
  cases a with
  | line text => exact if_pos ha
  | _ => rfl

theorem dialogueSteps_lines_of_ends {s t : Session σ} {text : String}
    {result : Except SessionError Unit} (hx : ¬isExitWord (Text.trim text))
    (h : s.react (.line text) = (t, .ends result)) (rest : List Arrival) :
    (s.dialogueSteps (.line text :: rest)).map Step.line = [text] := by
  rw [dialogueSteps, if_neg hx, h]
  rfl

theorem dialogueSteps_lines_of_goesOn {s t : Session σ} {text : String}
    (hx : ¬isExitWord (Text.trim text)) (h : s.react (.line text) = (t, .goesOn))
    (rest : List Arrival) :
    (s.dialogueSteps (.line text :: rest)).map Step.line =
      text :: (t.dialogueSteps rest).map Step.line := by
  rw [dialogueSteps, if_neg hx, h]
  rfl

end

/-! ## Sessions that are alike -/

theorem Alike.refl (s : Session) : s.Alike s := ⟨rfl, rfl, rfl, rfl, rfl, rfl⟩

/-- A line does the same to sessions that are alike. -/
theorem Alike.executeLine {s t : Session} (h : s.Alike t) (line : String) :
    (s.executeLine line).1.Alike (t.executeLine line).1 ∧
      (s.executeLine line).2 = (t.executeLine line).2 := by
  obtain ⟨g, robot, log, capacity, refusesFlush, bytes, flushes, settled⟩ := s
  obtain ⟨g', robot', log', capacity', refusesFlush', bytes', flushes', settled'⟩ := t
  obtain ⟨h1, h2, h3, h4, h5, h6⟩ := h
  dsimp only at h1 h2 h3 h4 h5 h6
  subst h1 h2 h3 h4 h5 h6
  unfold Session.executeLine
  dsimp only
  split
  · exact ⟨⟨rfl, rfl, rfl, rfl, rfl, rfl⟩, rfl⟩
  · exact ⟨⟨rfl, rfl, rfl, rfl, rfl, rfl⟩, rfl⟩

theorem Alike.flush {s t : Session} (h : s.Alike t) : s.flush.1.Alike t where
  grid := h.grid
  robot := h.robot
  log := h.log
  capacity := by rw [flush_sink, Sink.capacity_flush, h.capacity]
  refusesFlush := by rw [flush_refusesFlush, h.refusesFlush]
  bytes := by rw [flush_bytes, h.bytes]

/-- On a sink that accepts flushes, a dialogue goes on after a line that is carried out, alike to
what carried out the same line without a flush. -/
theorem Alike.react_line {s t : Session} (h : s.Alike t) (hf : s.sink.refusesFlush = false)
    {text : String} {r : LineResult} (hx : ¬isExitWord (Text.trim text))
    (hr : (s.executeLine text).2 = .ok r) :
    ∃ u, s.react (.line text) = (u, .goesOn) ∧ u.Alike (t.executeLine text).1 ∧
      u.sink.refusesFlush = false ∧ (t.executeLine text).2 = .ok r := by
  obtain ⟨hst, hres⟩ := h.executeLine text
  have hexecuted : (s.executeLine text).1.sink.refusesFlush = false := by
    rw [executeLine_refusesFlush, hf]
  have hreact := react_line_of_ok hx hr
  rw [flush_snd_of_accepts hexecuted] at hreact
  have hflushed : (s.executeLine text).1.flush.1.sink.refusesFlush = false := by
    rw [flush_refusesFlush, hexecuted]
  exact ⟨_, hreact, hst.flush, hflushed, hres.symm.trans hr⟩

/-! ## Arrival by arrival -/

/-- The only failure of a line is that its report is not written. -/
theorem notWritten_of_executeLine {s t : Session} {line : String} {e : SessionError}
    (h : (s.executeLine line).2 = .error e) : NotWritten (t, .error e) := by
  rcases executeLine_snd_cases s line with hok | ⟨-, -, -, he⟩
  · rw [hok] at h
    cases h
  · rw [he] at h
    cases h
    rfl

theorem not_notWritten_ok (s : Session) : ¬NotWritten (s, .ok ()) := by
  intro h
  cases h

theorem not_notWritten_lineNotRead (s : Session) : ¬NotWritten (s, .error .lineNotRead) := by
  intro h
  have : "failed to read line" = "failed to write report" := Except.error.inj h
  exact absurd this (by decide)

/-- At a closing arrival the dialogue is over, and so is the batch of the lines spoken. -/
theorem mirrors_of_closes {s t : Session} (h : s.Alike t) (hf : s.sink.refusesFlush = false)
    {a : Arrival} (ha : a.closes) (rest : List Arrival) :
    Mirrors (a :: rest) (s.lastHeard (a :: rest)) (s.converse (a :: rest))
      (t.runLines (spoken (a :: rest))) := by
  obtain ⟨u, result, hu, hrobot, hlog, hbytes, hresult⟩ := react_of_closes ha s
  rw [hresult (flush_snd_of_accepts hf)] at hu
  have hbatch : t.runLines [] = (t.flush.1, .ok ()) :=
    Prod.ext rfl (flush_snd_of_accepts (h.refusesFlush.symm.trans hf))
  have hlogs : u.log.toList = t.flush.1.log.toList ++ a.farewell := by
    rw [hlog, h.log]
    rfl
  rw [lastHeard_of_ends hu, converse_of_ends hu, spoken_of_closes ha, hbatch]
  exact {
    bytes := hbytes.trans (h.bytes.trans (flush_bytes t).symm)
    robot := hrobot.trans h.robot
    log := hlogs
    messages := by rw [hlogs, List.map_append, Arrival.farewell_message]
    notWritten := by
      by_cases hr : a = .unreadable
      · subst hr
        exact iff_of_false (not_notWritten_lineNotRead u) (not_notWritten_ok _)
      · simp only [hr, if_false]
        exact iff_of_false (not_notWritten_ok _) (not_notWritten_ok _)
    result := by
      intro _
      dsimp only
      split <;> rfl
    closed := fun _ => (closing_of_closes ha rest).symm
    cutOff := fun hn => absurd hn (not_notWritten_ok _) }

/-- Sessions that are alike and stop at the same line of the lines spoken. -/
theorem Alike.mirrors_of_notWritten {s t : Session} (h : s.Alike t) {e : SessionError}
    (he : ∀ u, NotWritten (u, .error e)) {arrivals : List Arrival} {text : String}
    (hmem : text ∈ spoken arrivals) :
    Mirrors arrivals (.line text) (s, .error e) (t, .error e) where
  bytes := h.bytes
  robot := h.robot
  log := by
    rw [h.log]
    exact (List.append_nil _).symm
  messages := by
    rw [h.log]
    exact (List.append_nil _).symm
  notWritten := iff_of_true (he s) (he t)
  result := fun hn => absurd (he t) hn
  closed := fun hn => absurd (he t) hn
  cutOff := fun _ => ⟨text, hmem, rfl⟩

/-- Both stop at a line whose report is not written. -/
theorem mirrors_of_error {s t : Session} (h : s.Alike t) {text : String} {e : SessionError}
    (hx : ¬isExitWord (Text.trim text)) (he : (s.executeLine text).2 = .error e)
    (rest : List Arrival) :
    Mirrors (.line text :: rest) (s.lastHeard (.line text :: rest))
      (s.converse (.line text :: rest)) (t.runLines (spoken (.line text :: rest))) := by
  obtain ⟨hst, hres⟩ := h.executeLine text
  have hreact := react_line_of_error hx he
  have hmem : text ∈ spoken (.line text :: rest) := by
    rw [spoken_cons_of_not_exit hx]
    exact List.mem_cons_self
  rw [lastHeard_of_ends hreact, converse_of_ends hreact]
  have hbatch : t.runLines (spoken (.line text :: rest)) = ((t.executeLine text).1, .error e) := by
    rw [spoken_cons_of_not_exit hx, runLines_of_error (hres.symm.trans he)]
  rw [hbatch]
  exact hst.mirrors_of_notWritten (fun _ => notWritten_of_executeLine he) hmem

/-- After a line that does not close a dialogue, the rest of both is all that counts. -/
theorem Mirrors.cons {arrivals : List Arrival} {last : Arrival}
    {dialogue batch : Session × Except SessionError Unit}
    (h : Mirrors arrivals last dialogue batch) {text : String}
    (hx : ¬isExitWord (Text.trim text)) :
    Mirrors (.line text :: arrivals) last dialogue batch := by
  refine { h with closed := ?_, cutOff := ?_ }
  · rw [closing_cons_of_not_exit hx]
    exact h.closed
  · intro hn
    obtain ⟨other, hmem, hlast⟩ := h.cutOff hn
    rw [spoken_cons_of_not_exit hx]
    exact ⟨other, List.mem_cons_of_mem _ hmem, hlast⟩

theorem mirrors_of_ok {s t : Session} (h : s.Alike t) (hf : s.sink.refusesFlush = false)
    {text : String} {r : LineResult} (hx : ¬isExitWord (Text.trim text))
    (hr : (s.executeLine text).2 = .ok r) {rest : List Arrival}
    (ih : ∀ {s' t' : Session}, s'.Alike t' → s'.sink.refusesFlush = false →
      Mirrors rest (s'.lastHeard rest) (s'.converse rest) (t'.runLines (spoken rest))) :
    Mirrors (.line text :: rest) (s.lastHeard (.line text :: rest))
      (s.converse (.line text :: rest)) (t.runLines (spoken (.line text :: rest))) := by
  obtain ⟨u, hreact, hu, hflush, ht⟩ := h.react_line hf hx hr
  rw [lastHeard_of_goesOn hreact, converse_of_goesOn hreact, spoken_cons_of_not_exit hx,
    runLines_of_ok ht]
  exact (ih hu hflush).cons hx

/-- **Simulation.** From sessions that are alike, a dialogue mirrors the batch of the lines
spoken. -/
theorem converse_mirrors {s t : Session} (h : s.Alike t) (hf : s.sink.refusesFlush = false)
    (arrivals : List Arrival) :
    Mirrors arrivals (s.lastHeard arrivals) (s.converse arrivals)
      (t.runLines (spoken arrivals)) := by
  induction arrivals generalizing s t with
  | nil =>
    -- no arrival is as good as the end of the input
    have hend := mirrors_of_closes h hf (a := .endOfInput) rfl []
    rw [← converse_nil] at hend
    exact { hend with }
  | cons a rest ih =>
    cases ha : a.closes with
    | true => exact mirrors_of_closes h hf ha rest
    | false =>
      obtain ⟨text, rfl, hx⟩ := exists_line_of_not_closes ha
      cases hr : (s.executeLine text).2 with
      | error e => exact mirrors_of_error h hx hr rest
      | ok r => exact mirrors_of_ok h hf hx hr ih

/-! ## What arrives too late -/

/-- A dialogue depends on nothing but the lines spoken and the arrival that closes it. -/
theorem converse_eq_converse_spoken (s : Session) (arrivals : List Arrival) :
    s.converse arrivals = s.converse ((spoken arrivals).map .line ++ [closing arrivals]) := by
  induction arrivals generalizing s with
  | nil => exact converse_nil s
  | cons a rest ih =>
    cases ha : a.closes with
    | true =>
      obtain ⟨t, result, h, -⟩ := react_of_closes ha s
      rw [spoken_of_closes ha, closing_of_closes ha, List.map_nil, List.nil_append,
        converse_of_ends h, converse_of_ends h]
    | false =>
      obtain ⟨text, rfl, hx⟩ := exists_line_of_not_closes ha
      rw [spoken_cons_of_not_exit hx, closing_cons_of_not_exit hx, List.map_cons,
        List.cons_append, converse, converse]
      split
      · exact ih _
      · rfl

/-- **A dialogue as a batch.** In a new session on a sink that accepts flushes, a dialogue does
what a batch of the lines spoken does. What arrives behind the closing arrival has no influence. -/
theorem converse_as_batch (g : Grid) (sink : Sink) (hf : sink.refusesFlush = false)
    (arrivals : List Arrival) :
    Mirrors arrivals ((start g sink).lastHeard arrivals) ((start g sink).converse arrivals)
      ((start g sink).runLines (spoken arrivals)) ∧
    (start g sink).converse arrivals =
      (start g sink).converse ((spoken arrivals).map .line ++ [closing arrivals]) :=
  ⟨converse_mirrors (Alike.refl (start g sink)) hf arrivals,
    converse_eq_converse_spoken (start g sink) arrivals⟩

/-- A padded exit word closes a dialogue on a board of one row, before the line behind it. -/
theorem converse_as_batch_quit :
    let g : Grid := ⟨5, 1, [], by decide, by decide, .nil⟩
    let sink : Sink := { capacity := some 10 }
    let arrivals : List Arrival :=
      [.line "PLACE 0,0,EAST", .line "REPORT", .line "\tQUIT ", .line "MOVE"]
    sink.refusesFlush = false ∧
    spoken arrivals = ["PLACE 0,0,EAST", "REPORT"] ∧
    closing arrivals = .line "\tQUIT " ∧
    Mirrors arrivals ((start g sink).lastHeard arrivals) ((start g sink).converse arrivals)
      ((start g sink).runLines ["PLACE 0,0,EAST", "REPORT"]) ∧
    (start g sink).converse arrivals = (start g sink).converse
      [.line "PLACE 0,0,EAST", .line "REPORT", .line "\tQUIT "] := by
  intro g sink arrivals
  have hspoken : spoken arrivals = ["PLACE 0,0,EAST", "REPORT"] := by decide
  have hclosing : closing arrivals = .line "\tQUIT " := by decide
  have h := converse_as_batch g sink rfl arrivals
  rw [hspoken, hclosing] at h
  exact ⟨rfl, hspoken, hclosing, h⟩

end Session

end Gridbot
