import Gridbot.Proofs.Session.Dialogue
import Gridbot.Proofs.Session.Isolation

/-!
# When a dialogue flushes

A dialogue flushes after each line that is carried out, whatever the line was, and once more when it
ends in a regular way. So it never waits with a report held back, and its flushes count its lines.

**Waiting.** `waits` lists the sessions that wait for an arrival. `attend` carries out lines each
with a flush behind it: it is where a dialogue waits after lines whose reports fit.

**Endings.** A dialogue ends in one of three ways: at the closing arrival with one more flush
(`RegularEnd`); at a line that cannot be read, with no further flush (`ReadFailure`); or at a report
that does not fit, with nothing unflushed but a part of that report (`WriteFailure`).

* `settled_of_mem_waits`: nothing is held back while a dialogue waits.
* `converse_of_fits`, `converse_of_unfit`: how a dialogue ends, and after how many flushes.
* `converse_of_refused`: on a sink that refuses flushes, the first flush is the last.
* `reports_flushed_before_waiting`: all of it.
-/

namespace Gridbot

/-- All bytes written so far were followed by a flush. -/
def Sink.Settled (s : Sink) : Prop := s.settled = s.bytes.size

namespace Session

/-- The sessions that wait for an arrival in the course of a dialogue. -/
def waits (s : Session) : List Arrival → List Session
  | [] => [s]
  | a :: rest =>
    s :: match s.react a with
      | (t, .goesOn) => t.waits rest
      | (_, .ends _) => []

/-- Carries out all lines, each with a flush behind it. -/
def attend (s : Session) : List String → Session
  | [] => s
  | line :: rest => (s.executeLine line).1.flush.1.attend rest

/-- A dialogue ended regularly behind `count` lines: it flushed after each and once more. -/
structure RegularEnd (count : Nat) (run : Session × Except SessionError Unit) : Prop where
  result : run.2 = .ok ()
  flushes : run.1.sink.flushes = count + 1
  settled : run.1.sink.Settled

/-- A dialogue ended at a line that cannot be read, behind `count` lines. -/
structure ReadFailure (count : Nat) (run : Session × Except SessionError Unit) : Prop where
  result : run.2.mapError SessionError.message = .error "failed to read line"
  flushes : run.1.sink.flushes = count
  settled : run.1.sink.Settled

/-- A dialogue ended behind `count` lines at one that reports `p`, whose report was not written in
full. The reports before are all flushed. -/
structure WriteFailure (count : Nat) (before : List Placement) (p : Placement)
    (run : Session × Except SessionError Unit) : Prop where
  result : run.2.mapError SessionError.message = .error "failed to write report"
  flushes : run.1.sink.flushes = count
  settled : run.1.sink.settled = (reportBytes before).size
  /-- What is held back is a proper part of the last report's line. -/
  heldBack : ∃ part, part < p.reportLine.toUTF8.size ∧
    run.1.sink.bytes = reportBytes before ++ p.reportLine.toUTF8.extract 0 part

/-- A dialogue whose first flush was refused did nothing else that counts. -/
structure FlushRefused (s : Session) (arrivals : List Arrival) : Prop where
  result : (s.converse arrivals).2.mapError SessionError.message = .error "failed to flush output"
  flushes : (s.converse arrivals).1.sink.flushes = 1
  carriedOut : (s.dialogueSteps arrivals).length ≤ 1
  bytes : (s.converse arrivals).1.sink.bytes = .empty

end Session

/-! ## Flushing a sink -/

namespace Sink

theorem settled_flush {s : Sink} (h : s.refusesFlush = false) : s.flush.1.Settled := by
  obtain ⟨capacity, refusesFlush, bytes, flushes, settled⟩ := s
  dsimp only at h
  subst h
  rfl

theorem holds_flush {s : Sink} {stream : ByteArray} (h : s.Holds stream) :
    s.flush.1.Holds stream := by
  unfold Holds at h ⊢
  rw [bytes_flush, capacity_flush, h]

/-- A write that is refused leaves a proper part of the data. -/
theorem bytes_of_write_refused {s : Sink} {data : ByteArray} {e : SinkError}
    (h : (s.write data).2 = .error e) :
    ∃ part, part < data.size ∧ (s.write data).1.bytes = s.bytes ++ data.extract 0 part := by
  have hw : (s.write data).2 =
      if room s.capacity s.bytes.size data.size = data.size then .ok () else .error .full := rfl
  have hle : room s.capacity s.bytes.size data.size ≤ data.size := by
    unfold room
    split <;> omega
  rw [hw] at h
  split at h
  · cases h
  · exact ⟨room s.capacity s.bytes.size data.size, by omega, bytes_write s data⟩

end Sink

namespace Session

/-! ## Waiting -/

/-- A dialogue goes on only behind a line that was carried out and flushed. -/
theorem react_goesOn {s t : Session} {a : Arrival} (h : s.react a = (t, .goesOn)) :
    ∃ text, a = .line text ∧ t = (s.executeLine text).1.flush.1 ∧
      t.sink.refusesFlush = false := by
  cases ha : a.closes with
  | true =>
    obtain ⟨u, result, hu, -⟩ := react_of_closes ha s
    rw [hu] at h
    cases h
  | false =>
    obtain ⟨text, rfl, hx⟩ := exists_line_of_not_closes ha
    cases hr : (s.executeLine text).2 with
    | error e =>
      rw [react_line_of_error hx hr, Prod.mk.injEq] at h
      cases h.2
    | ok r =>
      rw [react_line_of_ok hx hr, flush_snd, Prod.mk.injEq] at h
      obtain ⟨ht, hp⟩ := h
      cases hf : (s.executeLine text).1.sink.refusesFlush with
      | true =>
        rw [hf] at hp
        cases hp
      | false => exact ⟨text, rfl, ht.symm, by rw [← ht, flush_refusesFlush, hf]⟩

/-- **Waiting.** If nothing is held back at first, nothing is whenever the dialogue waits. -/
theorem settled_of_mem_waits {s : Session} (hs : s.sink.Settled) (arrivals : List Arrival) :
    ∀ w ∈ s.waits arrivals, w.sink.Settled := by
  induction arrivals generalizing s with
  | nil =>
    intro w hw
    rw [waits, List.mem_singleton] at hw
    rw [hw]
    exact hs
  | cons a rest ih =>
    intro w hw
    rw [waits] at hw
    rcases List.mem_cons.1 hw with rfl | hw
    · exact hs
    · generalize hreact : s.react a = x at hw
      obtain ⟨t, _ | result⟩ := x
      · obtain ⟨text, -, ht, haccepts⟩ := react_goesOn hreact
        have hline : (s.executeLine text).1.sink.refusesFlush = false := by
          rw [← flush_refusesFlush, ← ht, haccepts]
        have hsettled : t.sink.Settled := by
          rw [ht, flush_sink]
          exact Sink.settled_flush hline
        exact ih hsettled w hw
      · cases hw

/-! ## Lines that are attended to -/

theorem attend_alike {s t : Session} (h : s.Alike t) (lines : List String) :
    (s.attend lines).Alike (t.carry lines) := by
  induction lines generalizing s t with
  | nil => exact h
  | cons line rest ih =>
    rw [attend, carry]
    exact ih (h.executeLine line).1.flush

theorem attend_flushes (s : Session) (lines : List String) :
    (s.attend lines).sink.flushes = s.sink.flushes + lines.length := by
  induction lines generalizing s with
  | nil => rfl
  | cons line rest ih =>
    have hline : (s.executeLine line).1.sink.flushes = s.sink.flushes := by
      rw [executeLine_sink_frame]
    rw [attend, ih, flush_sink, Sink.flushes_flush, hline, List.length_cons]
    omega

theorem attend_settled {s : Session} (hs : s.sink.Settled) (hf : s.sink.refusesFlush = false)
    (lines : List String) : (s.attend lines).sink.Settled := by
  induction lines generalizing s with
  | nil => exact hs
  | cons line rest ih =>
    have hline : (s.executeLine line).1.sink.refusesFlush = false := by
      rw [executeLine_refusesFlush, hf]
    have hsettled : (s.executeLine line).1.flush.1.sink.Settled := by
      rw [flush_sink]
      exact Sink.settled_flush hline
    have haccepts : (s.executeLine line).1.flush.1.sink.refusesFlush = false := by
      rw [flush_refusesFlush, hline]
    rw [attend]
    exact ih hsettled haccepts

/-- A dialogue attends to lines whose reports fit. -/
theorem converse_attend {s : Session} {stream : ByteArray} (hs : s.sink.Holds stream)
    (hf : s.sink.refusesFlush = false) {lines : List String}
    (hx : ∀ line ∈ lines, ¬isExitWord (Text.trim line))
    (hfits : Sink.Fits s.sink.capacity
      (stream ++ reportBytes (s.robot.reports s.grid lines)).size) (rest : List Arrival) :
    s.converse (lines.map .line ++ rest) = (s.attend lines).converse rest := by
  induction lines generalizing s stream with
  | nil => rfl
  | cons line lines ih =>
    rw [List.forall_mem_cons] at hx
    rw [RobotState.reports, reportBytes_append, ← ByteArray.append_assoc] at hfits
    have hok := executeLine_ok_of_fits hs hfits.of_append
    obtain ⟨u, hreact, -, -, -⟩ := (Alike.refl s).react_line hf hx.1 hok
    obtain ⟨text, heq, hu, haccepts⟩ := react_goesOn hreact
    cases heq
    have hholds : u.sink.Holds (stream ++ reportBytes (s.robot.obey s.grid line).2.toList) := by
      rw [hu, flush_sink]
      exact Sink.holds_flush (executeLine_holds hs line)
    have hrest : u.converse (lines.map .line ++ rest) = (u.attend lines).converse rest := by
      apply ih hholds haccepts hx.2
      rwa [hu, flush_sink, Sink.capacity_flush, executeLine_capacity, flush_robot, flush_grid,
        executeLine_grid, executeLine_robot]
    rw [List.map_cons, List.cons_append, converse_of_goesOn hreact, hrest, attend, hu]

/-! ## The closing arrival -/

theorem not_isExitWord_of_mem_spoken {arrivals : List Arrival} {line : String}
    (h : line ∈ spoken arrivals) : ¬isExitWord (Text.trim line) := by
  induction arrivals with
  | nil => cases h
  | cons a rest ih =>
    cases ha : a.closes with
    | true =>
      rw [spoken_of_closes ha] at h
      cases h
    | false =>
      obtain ⟨text, rfl, hx⟩ := exists_line_of_not_closes ha
      rw [spoken_cons_of_not_exit hx] at h
      rcases List.mem_cons.1 h with rfl | h
      · exact hx
      · exact ih h

theorem closes_closing (arrivals : List Arrival) : (closing arrivals).closes := by
  unfold closing
  cases h : arrivals.find? Arrival.closes with
  | none => rfl
  | some a => exact List.find?_some h

/-- A closing arrival that can be read is followed by one flush. -/
theorem converse_of_closes {a : Arrival} (ha : a.closes) (hread : a ≠ .unreadable) (s : Session)
    (rest : List Arrival) :
    (s.converse (a :: rest)).1.sink = s.sink.flush.1 ∧
      (s.converse (a :: rest)).2 = s.sink.flush.2.mapError .outputNotFlushed := by
  cases a with
  | line text =>
    have hreact : s.react (.line text) = (s.flush.1, .ends s.flush.2) := react_exit ha
    rw [converse_of_ends hreact]
    exact ⟨rfl, rfl⟩
  | interrupt => exact ⟨rfl, rfl⟩
  | endOfInput => exact ⟨rfl, rfl⟩
  | unreadable => exact absurd rfl hread

/-! ## Reports that are not written -/

/-- A line that fails leaves a proper part of its report. -/
theorem bytes_of_executeLine_error {s : Session} {line : String} {e : SessionError} {p : Placement}
    (h : (s.executeLine line).2 = .error e) (hp : (s.robot.obey s.grid line).2 = some p) :
    ∃ part, part < p.reportLine.toUTF8.size ∧
      (s.executeLine line).1.sink.bytes = s.sink.bytes ++ p.reportLine.toUTF8.extract 0 part := by
  rcases executeLine_snd_cases s line with hok | ⟨q, hq, hrefused, -⟩
  · rw [hok] at h
    cases h
  · rw [hp] at hq
    cases hq
    have hsink : (s.executeLine line).1.sink = (s.sink.write p.reportLine.toUTF8).1 := by
      rw [executeLine_sink, hp]
      rfl
    rw [hsink]
    exact Sink.bytes_of_write_refused hrefused

/-! ## How a dialogue ends -/

section
variable (s : Session) (capacity : Option Nat)

/-- A session as it begins: with a new sink, which flushes. -/
theorem settled_onto : (s.onto { capacity }).sink.Settled := rfl

theorem attend_onto_flushes (lines : List String) :
    ((s.onto { capacity }).attend lines).sink.flushes = lines.length := by
  have h : (s.onto { capacity }).sink.flushes = 0 := rfl
  rw [attend_flushes, h, Nat.zero_add]

theorem attend_onto_bytes {lines : List String}
    (hfits : Sink.Fits capacity (reportBytes (s.robot.reports s.grid lines)).size) :
    ((s.onto { capacity }).attend lines).sink.bytes =
      reportBytes (s.robot.reports s.grid lines) := by
  rw [(attend_alike (Alike.refl _) lines).bytes, carry_onto_bytes, Sink.clip_of_fits hfits]

/-- A dialogue on a new sink attends to lines whose reports fit. -/
theorem converse_onto_attend {lines : List String}
    (hx : ∀ line ∈ lines, ¬isExitWord (Text.trim line))
    (hfits : Sink.Fits capacity (reportBytes (s.robot.reports s.grid lines)).size)
    (rest : List Arrival) :
    (s.onto { capacity }).converse (lines.map .line ++ rest) =
      ((s.onto { capacity }).attend lines).converse rest := by
  refine converse_attend (holds_onto s false capacity) rfl hx ?_ rest
  rwa [ByteArray.empty_append]

/-- If all reports fit, the dialogue comes to its closing arrival. -/
theorem converse_of_fits {arrivals : List Arrival}
    (hfits : Sink.Fits capacity (reportBytes (s.robot.reports s.grid (spoken arrivals))).size) :
    if closing arrivals = .unreadable then
      ReadFailure (spoken arrivals).length ((s.onto { capacity }).converse arrivals)
    else RegularEnd (spoken arrivals).length ((s.onto { capacity }).converse arrivals) := by
  let last := (s.onto { capacity }).attend (spoken arrivals)
  have hrun : (s.onto { capacity }).converse arrivals = last.converse [closing arrivals] := by
    rw [converse_eq_converse_spoken]
    exact converse_onto_attend s capacity (fun _ => not_isExitWord_of_mem_spoken) hfits _
  have hflushes : last.sink.flushes = (spoken arrivals).length :=
    attend_onto_flushes s capacity (spoken arrivals)
  have haccepts : last.sink.refusesFlush = false := by
    rw [(attend_alike (Alike.refl _) (spoken arrivals)).refusesFlush, carry_refusesFlush]
    rfl
  rw [hrun]
  split
  · rename_i hclosing
    rw [hclosing]
    exact {
      result := rfl
      flushes := hflushes
      settled := attend_settled (settled_onto s capacity) rfl _ }
  · rename_i hclosing
    obtain ⟨hsink, hresult⟩ := converse_of_closes (closes_closing arrivals) hclosing last []
    exact {
      result := by rw [hresult, Sink.flush_snd, haccepts]; rfl
      flushes := by rw [hsink, Sink.flushes_flush, hflushes]
      settled := by rw [hsink]; exact Sink.settled_flush haccepts }

/-- At the first report that does not fit, the dialogue ends without a flush. -/
theorem converse_of_unfit {done later : List String} {line : String} {p : Placement}
    {arrivals : List Arrival} (hspoken : spoken arrivals = done ++ line :: later)
    (hp : ((s.robot.after s.grid done).obey s.grid line).2 = some p)
    (hdone : Sink.Fits capacity (reportBytes (s.robot.reports s.grid done)).size)
    (hline : ¬Sink.Fits capacity (reportBytes (s.robot.reports s.grid (done ++ [line]))).size) :
    WriteFailure done.length (s.robot.reports s.grid done) p
      ((s.onto { capacity }).converse arrivals) := by
  let last := (s.onto { capacity }).attend done
  have halike : last.Alike ((s.onto { capacity }).carry done) := attend_alike (Alike.refl _) done
  have hx : ∀ text ∈ done ++ line :: later, ¬isExitWord (Text.trim text) := by
    rw [← hspoken]
    exact fun _ => not_isExitWord_of_mem_spoken
  have hbytes : last.sink.bytes = reportBytes (s.robot.reports s.grid done) :=
    attend_onto_bytes s capacity hdone
  have hobey : (last.robot.obey last.grid line).2 = some p := by
    rw [halike.robot, halike.grid, carry_robot, carry_grid]
    exact hp
  -- the line fails, as all reports up to and with its own do not fit
  have hfail : (last.executeLine line).2 = .error (.reportNotWritten .full) := by
    have hholds : last.sink.Holds (reportBytes (s.robot.reports s.grid done)) := by
      rw [Sink.Holds, halike.bytes, halike.capacity, carry_onto_bytes, carry_capacity]
      rfl
    rw [RobotState.reports_append, RobotState.reports_singleton, hp, reportBytes_append,
      Option.toList_some, reportBytes, reportBytes, ByteArray.append_empty] at hline
    rw [executeLine_snd_of_some hholds hobey, if_neg]
    rw [halike.capacity, carry_capacity]
    exact hline
  have hrun : (s.onto { capacity }).converse arrivals =
      ((last.executeLine line).1, .error (.reportNotWritten .full)) := by
    have hfirst : ∀ text ∈ done, ¬isExitWord (Text.trim text) :=
      fun text ht => hx text (List.mem_append_left _ ht)
    rw [converse_eq_converse_spoken, hspoken, List.map_append, List.append_assoc,
      converse_onto_attend s capacity hfirst hdone, List.map_cons, List.cons_append,
      converse_of_ends (react_line_of_error (hx line (by simp)) hfail)]
  rw [hrun]
  exact {
    result := rfl
    flushes := by
      rw [executeLine_sink_frame]
      exact attend_onto_flushes s capacity done
    settled := by
      have h : last.sink.Settled := attend_settled (settled_onto s capacity) rfl done
      rw [executeLine_sink_frame, ← hbytes]
      exact h
    heldBack := by
      obtain ⟨part, hpart, hwritten⟩ := bytes_of_executeLine_error hfail hobey
      exact ⟨part, hpart, by rw [hwritten, hbytes]⟩ }

end

/-! ## Sinks that refuse flushes -/

/-- In a new session a first line writes nothing. -/
theorem executeLine_of_unplaced {s : Session} (h : s.robot = .unplaced) (line : String) :
    (∃ r, (s.executeLine line).2 = .ok r) ∧ (s.executeLine line).1.sink = s.sink := by
  have hp : (s.robot.obey s.grid line).2 = none := by
    cases hp : (s.robot.obey s.grid line).2 with
    | none => rfl
    | some p =>
      obtain ⟨-, hplaced, -⟩ := RobotState.obey_of_report hp
      rw [h] at hplaced
      cases hplaced
  exact ⟨⟨_, executeLine_snd_of_none hp⟩, by rw [executeLine_sink, hp]⟩

/-- A dialogue that does nothing to a new sink but flush it once in vain. -/
theorem flushRefused_of_sink {g : Grid} {capacity : Option Nat} {arrivals : List Arrival}
    (hsteps : ((fresh g capacity true).dialogueSteps arrivals).length ≤ 1)
    (hsink : ((fresh g capacity true).converse arrivals).1.sink =
      (fresh g capacity true).sink.flush.1)
    (hresult : ((fresh g capacity true).converse arrivals).2 =
      (fresh g capacity true).sink.flush.2.mapError .outputNotFlushed) :
    FlushRefused (fresh g capacity true) arrivals where
  result := by
    rw [hresult]
    rfl
  flushes := by
    rw [hsink]
    rfl
  carriedOut := hsteps
  bytes := by
    rw [hsink]
    rfl

/-- **Refused flushes.** In a new session the first flush comes before anything is written, and if
it is refused the dialogue is over. -/
theorem converse_of_refused (g : Grid) (capacity : Option Nat) {arrivals : List Arrival}
    (h : arrivals.head? ≠ some .unreadable) : FlushRefused (fresh g capacity true) arrivals := by
  let s := fresh g capacity true
  cases arrivals with
  | nil => exact flushRefused_of_sink (Nat.zero_le 1) rfl rfl
  | cons a rest =>
    have hread : a ≠ .unreadable := fun ha => h (by rw [ha, List.head?_cons])
    cases ha : a.closes with
    | true =>
      obtain ⟨hsink, hresult⟩ := converse_of_closes ha hread s rest
      refine flushRefused_of_sink ?_ hsink hresult
      rw [dialogueSteps_of_closes ha]
      exact Nat.zero_le 1
    | false =>
      obtain ⟨text, rfl, hx⟩ := exists_line_of_not_closes ha
      obtain ⟨⟨r, hr⟩, hsame⟩ := executeLine_of_unplaced (s := s) rfl text
      have hrefuses : (s.executeLine text).1.sink.refusesFlush = true := by rw [hsame]; rfl
      have hreact : s.react (.line text) =
          ((s.executeLine text).1.flush.1, .ends (.error (.outputNotFlushed .flushRefused))) := by
        rw [react_line_of_ok hx hr, flush_snd, hrefuses]
        rfl
      refine flushRefused_of_sink ?_ ?_ ?_
      · have hlines := congrArg List.length (dialogueSteps_lines_of_ends hx hreact rest)
        rw [List.length_map] at hlines
        exact Nat.le_of_eq hlines
      · rw [converse_of_ends hreact, flush_sink, hsame]
      · rw [converse_of_ends hreact]
        rfl

/-! ## The promise -/

/-- **No report is held back.** On a new sink that flushes, every byte written is flushed whenever a
dialogue waits. Its flushes are one for each line in front of the closing arrival and one more for a
regular end; if a report does not fit, one for each line in front of its own. In a new session on a
sink that refuses flushes, a dialogue fails at its first flush, before anything is written. -/
theorem reports_flushed_before_waiting (s : Session) (capacity : Option Nat)
    (arrivals : List Arrival) :
    (∀ w ∈ (s.onto { capacity }).waits arrivals, w.sink.Settled) ∧
    (if Sink.Fits capacity (reportBytes (s.robot.reports s.grid (spoken arrivals))).size then
      if closing arrivals = .unreadable then
        ReadFailure (spoken arrivals).length ((s.onto { capacity }).converse arrivals)
      else RegularEnd (spoken arrivals).length ((s.onto { capacity }).converse arrivals)
    else
      ∃ done line later p, spoken arrivals = done ++ line :: later ∧
        ((s.robot.after s.grid done).obey s.grid line).2 = some p ∧
        WriteFailure done.length (s.robot.reports s.grid done) p
          ((s.onto { capacity }).converse arrivals)) ∧
    (∀ g, arrivals.head? ≠ some .unreadable → FlushRefused (fresh g capacity true) arrivals) := by
  refine ⟨settled_of_mem_waits (settled_onto s capacity) arrivals, ?_,
    fun g h => converse_of_refused g capacity h⟩
  by_cases hfits : Sink.Fits capacity (reportBytes (s.robot.reports s.grid (spoken arrivals))).size
  · rw [if_pos hfits]
    exact converse_of_fits s capacity hfits
  · rw [if_neg hfits]
    rw [← ByteArray.empty_append (b := reportBytes _)] at hfits
    obtain ⟨done, line, later, p, hspoken, hp, hdone, hline⟩ :=
      exists_first_unfit (Sink.fits_empty capacity) hfits
    rw [ByteArray.empty_append] at hdone hline
    exact ⟨done, line, later, p, hspoken, hp, converse_of_unfit s capacity hspoken hp hdone hline⟩

/-- A session that waits behind a report and a blank line, then has no room for its second report;
and the same arrivals on a sink that refuses flushes. -/
theorem reports_flushed_before_waiting_full_sink :
    let g : Grid := ⟨5, 1, [], by decide, by decide, .nil⟩
    let s := start g {}
    let arrivals : List Arrival :=
      [.line "PLACE 4,0,EAST", .line "REPORT", .line " ", .line "REPORT", .interrupt]
    let w := (s.onto { capacity := some 12 }).attend ["PLACE 4,0,EAST", "REPORT", " "]
    w ∈ (s.onto { capacity := some 12 }).waits arrivals ∧ w.sink.Settled ∧
    w.sink.bytes = "4,0,EAST\n".toUTF8 ∧
    ¬Sink.Fits (some 12) (reportBytes (s.robot.reports s.grid (spoken arrivals))).size ∧
    (∃ done line later p, spoken arrivals = done ++ line :: later ∧
      ((s.robot.after s.grid done).obey s.grid line).2 = some p ∧
      WriteFailure done.length (s.robot.reports s.grid done) p
        ((s.onto { capacity := some 12 }).converse arrivals)) ∧
    arrivals.head? ≠ some .unreadable ∧ FlushRefused (fresh g (some 12) true) arrivals := by
  intro g s arrivals w
  have hw : w ∈ (s.onto { capacity := some 12 }).waits arrivals :=
    List.mem_of_getElem? (i := 3) rfl
  have hbytes : w.sink.bytes = "4,0,EAST\n".toUTF8 := by decide +kernel
  have hunfit : ¬Sink.Fits (some 12)
      (reportBytes (s.robot.reports s.grid (spoken arrivals))).size := by decide +kernel
  have hhead : arrivals.head? ≠ some .unreadable := by decide
  obtain ⟨hwaits, hend, hrefused⟩ := reports_flushed_before_waiting s (some 12) arrivals
  rw [if_neg hunfit] at hend
  exact ⟨hw, hwaits w hw, hbytes, hunfit, hend, hhead, hrefused g hhead⟩

end Session

end Gridbot
