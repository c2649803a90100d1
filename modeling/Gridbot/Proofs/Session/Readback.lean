import Gridbot.Proofs.Arrival
import Gridbot.Proofs.Session.Checkpoint
import Gridbot.Proofs.Session.Isolation

/-!
# Reading reports back

A batch writes one line for each report, and a sink with a limit cuts the stream off at any byte.
What is written can still be read back: cut at its line feeds and put behind `PLACE `, every
finished line is the command for the placement that was reported, and an unfinished one, at the end,
is a proper beginning of the next report's line. So no cut makes a report that was not made.

**Streams.** `finishedLines` and `unfinished` are the lines of a stream that end in a line feed and
what is left behind them. `exists_told_of_prefix` says what a beginning of a stream of reports is;
`splitOn_told` cuts it.

* `runLines_bytes`, `fits_of_runLines_ok`: what a batch writes, and that all fits if it succeeds.
* `isOpen_of_mem_reports`: reports are made from open cells.
* `written_reads_back`: what is written by a batch, read back.
-/

namespace Gridbot

/-- The lines of a stream that come to their line feed, without it. -/
def finishedLines (stream : ByteArray) : List (List UInt8) :=
  (stream.data.toList.splitOn 0x0A).dropLast

/-- What a stream holds behind its last line feed. -/
def unfinished (stream : ByteArray) : List UInt8 :=
  (stream.data.toList.splitOn 0x0A).getLast?.getD []

/-- The command that a line of a stream is behind `PLACE `. -/
def readBack (line : List UInt8) : Option Command :=
  (String.fromUTF8? ⟨line.toArray⟩).bind fun text => Command.parse? ("PLACE " ++ text)

/-- The placement that a step reports, if it does. -/
def Step.report? (e : Step) : Option Placement :=
  match e.result with
  | .ok r => r.report?
  | .error _ => none

/-- The placements that the steps of a run report. -/
def reported (steps : List Step) : List Placement := steps.filterMap Step.report?

/-- A batch on a grid has written the reports of `told` and not, or not in full, those of
`untold`. -/
structure Told (g : Grid) (told untold : List Placement)
    (run : Session × Except SessionError Unit) : Prop where
  finished : (finishedLines run.1.sink.bytes).map readBack = told.map fun p => some (.place p)
  isOpen : ∀ p ∈ told, g.isOpen p.cell
  complete : run.2 = .ok () → untold = []
  /-- If the last byte is no line feed, the next report is written in part. -/
  cut : ∀ last, run.1.sink.bytes.data.toList.getLast? = some last → last ≠ 0x0A →
    ∃ p later, untold = p :: later ∧
      unfinished run.1.sink.bytes <+: p.reportLine.toUTF8.data.toList ∧
      unfinished run.1.sink.bytes ≠ p.reportLine.toUTF8.data.toList

/-! ## The line of a report -/

theorem encode_append (cs ds : List Char) : encode (cs ++ ds) = encode cs ++ encode ds := by
  simp [encode]

theorem lineFeed_not_mem_encode {cs : List Char} (h : '\n' ∉ cs) :
    (0x0A : UInt8) ∉ encode cs := by
  intro hm
  obtain ⟨c, hc, hb⟩ := List.mem_flatMap.1 hm
  have hne : c ≠ '\n' := fun he => h (he ▸ hc)
  exact lineFeed_not_mem_utf8EncodeChar hne hb

theorem Text.lineFeed_not_mem_decimal (n : UInt32) : '\n' ∉ (decimal n).toList :=
  fun h => absurd ((numeral_decimal n).isDigit_of_mem h) (by decide)

theorem Heading.lineFeed_not_mem_token (h : Heading) : '\n' ∉ h.token.toList := by
  cases h <;> decide

namespace Placement

/-- The bytes of a report, without its line feed. -/
def bytes (p : Placement) : List UInt8 := encode p.report.toList

theorem lineFeed_not_mem_bytes (p : Placement) : (0x0A : UInt8) ∉ p.bytes := by
  apply lineFeed_not_mem_encode
  simp only [report, String.toList_append, List.mem_append, not_or]
  exact ⟨⟨⟨⟨Text.lineFeed_not_mem_decimal _, by decide⟩, Text.lineFeed_not_mem_decimal _⟩,
    by decide⟩, p.heading.lineFeed_not_mem_token⟩

theorem toList_reportLine (p : Placement) :
    p.reportLine.toUTF8.data.toList = p.bytes ++ [0x0A] := by
  rw [toList_toUTF8, reportLine, String.toList_append, encode_append]
  rfl

/-- A report is read back as the command for its placement. -/
theorem readBack_bytes (p : Placement) : readBack p.bytes = some (.place p) := by
  have hparse : Command.parse ("PLACE " ++ p.report) = .ok (.place p) :=
    Command.parse_text (.place p)
  unfold readBack bytes
  rw [fromUTF8?_encode, Option.bind_some, String.ofList_toList, Command.parse?, hparse]
  rfl

end Placement

theorem map_readBack (ps : List Placement) :
    (ps.map Placement.bytes).map readBack = ps.map fun p => some (.place p) := by
  simp only [List.map_map, Function.comp_def, Placement.readBack_bytes]

theorem toList_reportBytes_cons (p : Placement) (ps : List Placement) :
    (reportBytes (p :: ps)).data.toList = p.bytes ++ 0x0A :: (reportBytes ps).data.toList := by
  rw [reportBytes, ByteArray.data_append, Array.toList_append, p.toList_reportLine,
    List.append_assoc, List.singleton_append]

theorem toList_reportBytes_append (ps qs : List Placement) :
    (reportBytes (ps ++ qs)).data.toList =
      (reportBytes ps).data.toList ++ (reportBytes qs).data.toList := by
  rw [reportBytes_append, ByteArray.data_append, Array.toList_append]

/-- Reports end in a line feed. -/
theorem getLast?_reportBytes {ps : List Placement} (h : ps ≠ []) :
    (reportBytes ps).data.toList.getLast? = some 0x0A := by
  obtain ⟨front, p, rfl⟩ : ∃ front p, ps = front ++ [p] :=
    ⟨_, _, (List.dropLast_concat_getLast h).symm⟩
  have hp : (reportBytes [p]).data.toList = p.bytes ++ [0x0A] := toList_reportBytes_cons p []
  rw [toList_reportBytes_append, hp, ← List.append_assoc, List.getLast?_concat]

/-! ## Beginnings of a stream of reports -/

/-- A beginning of a stream of reports is some of the reports in full, and then a part of the next
one, in front of its line feed, if there is a next one. -/
theorem exists_told_of_prefix {out : List UInt8} {ps : List Placement}
    (h : out <+: (reportBytes ps).data.toList) :
    ∃ told untold tail, ps = told ++ untold ∧ out = (reportBytes told).data.toList ++ tail ∧
      (tail = [] ∧ untold = [] ∨ ∃ p later, untold = p :: later ∧ tail <+: p.bytes) := by
  induction ps generalizing out with
  | nil =>
    have hout : out = [] := List.prefix_nil.1 h
    exact ⟨[], [], [], rfl, by rw [hout]; rfl, Or.inl ⟨rfl, rfl⟩⟩
  | cons p ps ih =>
    rw [toList_reportBytes_cons] at h
    have hfirst : p.bytes ++ [0x0A] <+: p.bytes ++ 0x0A :: (reportBytes ps).data.toList := by simp
    rcases Nat.lt_or_ge p.bytes.length out.length with hlt | hle
    · -- the first report is there in full
      have hlong : (p.bytes ++ [0x0A]).length ≤ out.length := by simp; omega
      obtain ⟨rest, rfl⟩ := List.prefix_of_prefix_length_le hfirst h hlong
      have hrest : rest <+: (reportBytes ps).data.toList := by simpa using h
      obtain ⟨told, untold, tail, rfl, rfl, htail⟩ := ih hrest
      refine ⟨p :: told, untold, tail, rfl, ?_, htail⟩
      rw [toList_reportBytes_cons]
      simp
    · have hpart : out <+: p.bytes :=
        List.prefix_of_prefix_length_le h (List.prefix_append _ _) hle
      exact ⟨[], p :: ps, out, rfl, rfl, Or.inr ⟨p, ps, rfl, hpart⟩⟩

/-- Cut at its line feeds, a stream of reports with a part of one behind it gives these. -/
theorem splitOn_told (told : List Placement) {tail : List UInt8} (h : (0x0A : UInt8) ∉ tail) :
    ((reportBytes told).data.toList ++ tail).splitOn 0x0A =
      told.map Placement.bytes ++ [tail] := by
  induction told with
  | nil => exact List.splitOn_eq_singleton h
  | cons p told ih =>
    rw [toList_reportBytes_cons, List.append_assoc, List.cons_append,
      Text.splitOn_append_of_not_mem p.lineFeed_not_mem_bytes,
      List.splitOn_cons_eq_if_modifyHead, ih]
    simp

/-! ## Reports and open cells -/

theorem RobotState.isOpen_of_mem_reports {g : Grid} {s : RobotState} (hs : s.Stands g)
    {lines : List String} {p : Placement} (h : p ∈ s.reports g lines) : g.isOpen p.cell := by
  induction lines generalizing s with
  | nil => cases h
  | cons line rest ih =>
    rw [reports] at h
    rcases List.mem_append.1 h with h | h
    · obtain ⟨-, hplaced, -⟩ := obey_of_report (Option.mem_toList.1 h)
      exact hs p hplaced
    · exact ih (stands_obey hs line) h

namespace Session

/-! ## What a batch writes -/

/-- A batch leaves in its sink what the sink takes of all reports, also if it stops early. -/
theorem runLines_bytes {s : Session} {stream : ByteArray} (hs : s.sink.Holds stream)
    (lines : List String) :
    (s.runLines lines).1.sink.bytes =
      Sink.clip s.sink.capacity (stream ++ reportBytes (s.robot.reports s.grid lines)) := by
  induction lines generalizing s stream with
  | nil =>
    have hflush : (s.runLines []).1.sink.bytes = s.sink.bytes := flush_bytes s
    rw [hflush, RobotState.reports, reportBytes, ByteArray.append_empty]
    exact hs
  | cons line rest ih =>
    have hline := executeLine_holds hs line
    rw [RobotState.reports, reportBytes_append, ← ByteArray.append_assoc]
    cases hr : (s.executeLine line).2 with
    | ok r =>
      rw [runLines_of_ok hr, ih hline, executeLine_capacity, executeLine_grid, executeLine_robot]
    | error e =>
      obtain ⟨-, -, hunfit⟩ := (executeLine_fails_iff hs line).1 ⟨e, hr⟩
      rw [runLines_of_error hr, Sink.clip_append_of_not_fits hunfit]
      unfold Sink.Holds at hline
      rw [hline, executeLine_capacity]

/-- A batch that succeeds has room for all reports. -/
theorem fits_of_runLines_ok {s : Session} {stream : ByteArray} (hs : s.sink.Holds stream)
    (h0 : Sink.Fits s.sink.capacity stream.size) {lines : List String}
    (h : (s.runLines lines).2 = .ok ()) :
    Sink.Fits s.sink.capacity (stream ++ reportBytes (s.robot.reports s.grid lines)).size := by
  induction lines generalizing s stream with
  | nil =>
    rw [RobotState.reports, reportBytes, ByteArray.append_empty]
    exact h0
  | cons line rest ih =>
    cases hr : (s.executeLine line).2 with
    | error e =>
      rw [runLines_of_error hr] at h
      cases h
    | ok r =>
      rw [runLines_of_ok hr] at h
      have hline : Sink.Fits (s.executeLine line).1.sink.capacity
          (stream ++ reportBytes (s.robot.obey s.grid line).2.toList).size := by
        rw [executeLine_capacity]
        cases hp : (s.robot.obey s.grid line).2 with
        | none => simpa [reportBytes] using h0
        | some p =>
          rw [executeLine_snd_of_some hs hp] at hr
          rw [Option.toList_some, reportBytes, reportBytes, ByteArray.append_empty]
          split at hr
          · assumption
          · cases hr
      have hrest := ih (executeLine_holds hs line) hline h
      rwa [executeLine_capacity, executeLine_grid, executeLine_robot, ByteArray.append_assoc,
        ← reportBytes_append] at hrest

/-- A batch on a sink without a limit reports what the course of its lines does. -/
theorem reported_batchSteps {s : Session} (h : s.sink.capacity = none) (lines : List String) :
    reported (s.batchSteps lines) = s.robot.reports s.grid lines := by
  induction lines generalizing s with
  | nil => rfl
  | cons line rest ih =>
    have hresult := executeLine_snd_of_unlimited h line
    have hrest := ih (s := (s.executeLine line).1) (by rw [executeLine_capacity, h])
    rw [executeLine_grid, executeLine_robot] at hrest
    have hfirst : Step.report? ⟨line, (s.executeLine line).1, (s.executeLine line).2⟩ =
        (s.robot.obey s.grid line).2 := by
      rw [← RobotState.respond_report?, Step.report?, hresult]
    rw [batchSteps, RobotState.reports, ← hrest, reported, List.filterMap_cons, hfirst, hresult]
    cases (s.robot.obey s.grid line).2 <;> rfl

/-! ## What is read back -/

/-- The reports of a new session, in part or in full, read back. -/
theorem told_of_prefix {g : Grid} {lines : List String} {run : Session × Except SessionError Unit}
    (h : run.1.sink.bytes.data.toList <+:
      (reportBytes (RobotState.unplaced.reports g lines)).data.toList)
    (hok : run.2 = .ok () → run.1.sink.bytes = reportBytes (RobotState.unplaced.reports g lines)) :
    ∃ told untold, RobotState.unplaced.reports g lines = told ++ untold ∧
      Told g told untold run := by
  obtain ⟨told, untold, tail, hps, hout, htail⟩ := exists_told_of_prefix h
  have hfeed : (0x0A : UInt8) ∉ tail := by
    rcases htail with ⟨rfl, -⟩ | ⟨p, -, -, hpart⟩
    · simp
    · exact fun hm => p.lineFeed_not_mem_bytes (hpart.subset hm)
  have hsplit := splitOn_told told hfeed
  rw [← hout] at hsplit
  have hunfinished : unfinished run.1.sink.bytes = tail := by
    rw [unfinished, hsplit, List.getLast?_concat, Option.getD_some]
  refine ⟨told, untold, hps, ?_⟩
  exact {
    finished := by
      rw [finishedLines, hsplit, List.dropLast_concat, map_readBack]
    isOpen := by
      intro p hp
      have hmem : p ∈ RobotState.unplaced.reports g lines := by
        rw [hps]
        exact List.mem_append_left _ hp
      exact RobotState.isOpen_of_mem_reports (RobotState.stands_unplaced g) hmem
    complete := by
      intro hrun
      -- the part behind the reports told is all the others, and has no line feed
      have hall : (reportBytes untold).data.toList = tail := by
        have hbytes := hok hrun
        rw [hps] at hbytes
        rw [hbytes, toList_reportBytes_append] at hout
        exact List.append_cancel_left hout
      by_contra hne
      have hlast := getLast?_reportBytes hne
      rw [hall] at hlast
      exact hfeed (List.mem_of_getLast? hlast)
    cut := by
      intro last hlast hne
      rw [hunfinished]
      rcases htail with ⟨rfl, -⟩ | ⟨p, later, huntold, hpart⟩
      · -- nothing behind the reports told, which end in a line feed
        rw [List.append_nil] at hout
        rw [hout] at hlast
        cases told with
        | nil => cases hlast
        | cons p told =>
          rw [getLast?_reportBytes (List.cons_ne_nil p told), Option.some.injEq] at hlast
          exact absurd hlast.symm hne
      · refine ⟨p, later, huntold, ?_, ?_⟩
        · rw [p.toList_reportLine]
          exact hpart.trans (List.prefix_append _ _)
        · rw [p.toList_reportLine]
          intro he
          exact hfeed (by rw [he]; simp) }

/-- **What is written reads back.** Whatever the capacity, the finished lines that a batch writes in
a new session read back, behind `PLACE `, as the first of the placements that its lines report on a
sink without a limit; they are all of them if the batch succeeds. Their cells are open. What stands
behind the last line feed is a proper beginning of the next report's line. -/
theorem written_reads_back (g : Grid) (capacity : Option Nat) (refusesFlush : Bool)
    (lines : List String) :
    ∃ told untold,
      reported ((fresh g none refusesFlush).batchSteps lines) = told ++ untold ∧
      Told g told untold ((fresh g capacity refusesFlush).runLines lines) := by
  have hreported := reported_batchSteps (s := fresh g none refusesFlush) rfl lines
  have hnew := holds_fresh g capacity refusesFlush
  have hbytes := runLines_bytes hnew lines
  rw [ByteArray.empty_append] at hbytes
  rw [hreported]
  refine told_of_prefix ?_ fun hok => ?_
  · rw [hbytes]
    exact Sink.clip_prefix _ _
  · have hfits := fits_of_runLines_ok hnew (Sink.fits_empty _) hok
    rw [ByteArray.empty_append] at hfits
    rw [hbytes, Sink.clip_of_fits hfits]
    rfl

end Session

end Gridbot
