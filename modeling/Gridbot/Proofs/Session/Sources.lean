import Gridbot.FileTree
import Gridbot.Proofs.Session.Cleaned
import Gridbot.Proofs.Session.Dialogue

/-!
# Command files and input streams

A text can come as a command file, whose instructions are cut out first and run as a batch, or as an
input stream, whose lines arrive one by one and are handled in a dialogue. If the text has no
backspace and no exit word, and the sink accepts flushes, it makes no difference.

* `converse_carries_out`: a dialogue carries out the lines that a batch of the lines spoken does,
  and ends with the same result.
* `load_of_openFile`: a text that is small enough and has a plain name is read.
* `file_agrees_with_stream`: the two ways agree.
-/

namespace Gridbot

namespace Session

/-! ## Streams of lines alone -/

/-- All lines in front of the end of the input are spoken if none is an exit word. -/
theorem spoken_closing_of_lines {lines : List String}
    (h : ∀ line ∈ lines, ¬isExitWord (Text.trim line)) :
    spoken (lines.map .line ++ [.endOfInput]) = lines ∧
      closing (lines.map .line ++ [.endOfInput]) = .endOfInput := by
  induction lines with
  | nil => exact ⟨rfl, rfl⟩
  | cons line rest ih =>
    rw [List.forall_mem_cons] at h
    obtain ⟨hline, hrest⟩ := h
    obtain ⟨h1, h2⟩ := ih hrest
    rw [List.map_cons, List.cons_append, spoken_cons_of_not_exit hline,
      closing_cons_of_not_exit hline, h1]
    exact ⟨rfl, h2⟩

/-! ## What a dialogue carries out -/

/-- From sessions that are alike, a dialogue carries out the lines that the batch of the lines
spoken does, and ends with the same result unless a line cannot be read. -/
theorem converse_carries_out {s t : Session} (h : s.Alike t) (hf : s.sink.refusesFlush = false)
    (arrivals : List Arrival) (hc : closing arrivals ≠ .unreadable) :
    (s.converse arrivals).2 = (t.runLines (spoken arrivals)).2 ∧
      (s.dialogueSteps arrivals).map Step.line =
        (t.batchSteps (spoken arrivals)).map Step.line := by
  induction arrivals generalizing s t with
  | nil =>
    have hft : t.sink.refusesFlush = false := h.refusesFlush.symm.trans hf
    have hnote : (s.note .endOfInput).sink.refusesFlush = false := hf
    exact ⟨(flush_snd_of_accepts hnote).trans (flush_snd_of_accepts hft).symm, rfl⟩
  | cons a rest ih =>
    cases ha : a.closes with
    | true =>
      have hft : t.sink.refusesFlush = false := h.refusesFlush.symm.trans hf
      obtain ⟨u, result, hu, -, -, -, hresult⟩ := react_of_closes ha s
      rw [closing_of_closes ha] at hc
      rw [hresult (flush_snd_of_accepts hf), if_neg hc] at hu
      rw [converse_of_ends hu, spoken_of_closes ha, dialogueSteps_of_closes ha]
      exact ⟨(flush_snd_of_accepts hft).symm, rfl⟩
    | false =>
      obtain ⟨text, rfl, hx⟩ := exists_line_of_not_closes ha
      rw [closing_cons_of_not_exit hx] at hc
      rw [spoken_cons_of_not_exit hx]
      cases hr : (s.executeLine text).2 with
      | error e =>
        have hreact := react_line_of_error hx hr
        have ht : (t.executeLine text).2 = .error e := (h.executeLine text).2.symm.trans hr
        rw [converse_of_ends hreact, runLines_of_error ht, dialogueSteps_lines_of_ends hx hreact,
          batchSteps_lines_of_error ht]
        exact ⟨rfl, rfl⟩
      | ok r =>
        obtain ⟨u, hreact, hu, hflush, ht⟩ := h.react_line hf hx hr
        obtain ⟨h1, h2⟩ := ih hu hflush hc
        rw [converse_of_goesOn hreact, runLines_of_ok ht, dialogueSteps_lines_of_goesOn hx hreact,
          batchSteps_lines_of_ok ht, h1, h2]
        exact ⟨rfl, rfl⟩

end Session

/-! ## Reading a text as a command file -/

theorem CommandFile.load_of_openFile {fs : FileSystem} {path : Path} {text : String}
    (hpath : path.bytes ≠ []) (hname : hasDottedName path = false)
    (hsize : text.utf8ByteSize ≤ maxSize)
    (hfound : fs.metadata path = .ok (.regular text.utf8ByteSize))
    (hopen : fs.openFile path = .ok (.ok text.toUTF8)) :
    load fs path = .ok ⟨path, instructions text⟩ := by
  unfold load ofOpen
  rw [if_neg hpath, hfound, hopen]
  dsimp only
  rw [hname, if_neg (Nat.not_lt.2 hsize), fromUTF8?_toUTF8]
  rfl

namespace Session

/-! ## The two ways -/

/-- A new session that has read a command file. -/
def onFile (g : Grid) (sink : Sink) (file : CommandFile) : Session :=
  (start g sink).note file.loaded

/-- A batch of the instructions of a file and a dialogue on arrivals, in new sessions, do the same.
Their logs differ by the reading of the file and by the end of the input, which a dialogue that
fails does not come to. -/
structure Agree (g : Grid) (sink : Sink) (file : CommandFile) (arrivals : List Arrival) : Prop where
  bytes : ((onFile g sink file).runLines file.commands).1.sink.bytes =
    ((start g sink).converse arrivals).1.sink.bytes
  robot : ((onFile g sink file).runLines file.commands).1.robot =
    ((start g sink).converse arrivals).1.robot
  carriedOut : ((onFile g sink file).batchSteps file.commands).map Step.line =
    cleaned (((start g sink).dialogueSteps arrivals).map Step.line)
  result : ((onFile g sink file).runLines file.commands).2 = ((start g sink).converse arrivals).2
  log : ∃ events,
    ((onFile g sink file).runLines file.commands).1.log.toList =
      .gridInitialized g.length g.width :: file.loaded :: events ∧
    ((start g sink).converse arrivals).1.log.toList =
      .gridInitialized g.length g.width :: events ++
        (match ((start g sink).converse arrivals).2 with
        | .ok () => [.endOfInput]
        | .error _ => [])

/-- A session with an empty log. -/
def unlogged (g : Grid) (sink : Sink) : Session := ⟨g, .unplaced, #[], sink⟩

theorem start_eq_precededBy (g : Grid) (sink : Sink) :
    start g sink = (unlogged g sink).precededBy [.gridInitialized g.length g.width] := rfl

theorem onFile_eq_precededBy (g : Grid) (sink : Sink) (file : CommandFile) :
    onFile g sink file =
      (unlogged g sink).precededBy [.gridInitialized g.length g.width, file.loaded] := rfl

/-- The last word of a dialogue is the end of the input, unless a report was not written. -/
theorem Mirrors.farewell_eq {arrivals : List Arrival} {last : Arrival}
    {dialogue batch : Session × Except SessionError Unit}
    (h : Mirrors arrivals last dialogue batch) (hc : closing arrivals = .endOfInput)
    (hb : batch.2 = .ok () ∨ batch.2 = .error (.reportNotWritten .full)) :
    last.farewell =
      match batch.2 with
      | .ok () => [.endOfInput]
      | .error _ => [] := by
  obtain ⟨s, result⟩ := batch
  rcases hb with hb | hb
  · dsimp only at hb
    subst hb
    rw [h.closed (not_notWritten_ok s), hc]
    rfl
  · dsimp only at hb
    subst hb
    obtain ⟨text, -, rfl⟩ := h.cutOff rfl
    rfl

/-- A file whose instructions are lines without exit words, cleaned, agrees with a stream of the
lines. -/
theorem agree_of_lines (g : Grid) {sink : Sink} (hf : sink.refusesFlush = false)
    {lines : List String} (hx : ∀ line ∈ lines, ¬isExitWord (Text.trim line)) (path : Path) :
    Agree g sink ⟨path, cleaned lines⟩ (lines.map .line ++ [.endOfInput]) := by
  obtain ⟨hspoken, hclosing⟩ := spoken_closing_of_lines hx
  have hmirrors :=
    converse_mirrors (Alike.refl (start g sink)) hf (lines.map .line ++ [.endOfInput])
  obtain ⟨hresult, hsteps⟩ := converse_carries_out (Alike.refl (start g sink)) hf
    (lines.map .line ++ [.endOfInput]) (by rw [hclosing]; exact Arrival.noConfusion)
  rw [hspoken] at hmirrors hresult hsteps
  have hfarewell := hmirrors.farewell_eq hclosing (runLines_snd_cases hf lines)
  have hlog := hmirrors.log
  rw [hfarewell, ← hresult] at hlog
  -- both batches are that of an unlogged session, with different events in front
  let u := unlogged g sink
  have hbatch : (start g sink).runLines lines =
      ((u.runLines lines).1.precededBy [.gridInitialized g.length g.width],
        (u.runLines lines).2) := by
    rw [start_eq_precededBy, runLines_precededBy]
  have hfile : (onFile g sink ⟨path, cleaned lines⟩).runLines (cleaned lines) =
      ((u.runLines lines).1.precededBy
        [.gridInitialized g.length g.width, CommandFile.loaded ⟨path, cleaned lines⟩],
        (u.runLines lines).2) := by
    rw [runLines_cleaned, onFile_eq_precededBy, runLines_precededBy]
  exact {
    bytes := by rw [hmirrors.bytes, hbatch, hfile]; rfl
    robot := by rw [hmirrors.robot, hbatch, hfile]; rfl
    carriedOut := by
      rw [hsteps, batchSteps_cleaned, onFile_eq_precededBy, start_eq_precededBy,
        batchSteps_precededBy, batchSteps_precededBy]
    result := by rw [hresult, hbatch, hfile]
    log := by
      refine ⟨(u.runLines lines).1.log.toList, ?_, ?_⟩
      · rw [hfile, precededBy_log]
        rfl
      · rw [hlog, hbatch, precededBy_log]
        rfl }

/-- **Files and streams agree.** A text without backspaces, in which no line is an exit word, does
the same from a command file and from an input stream: the same lines are carried out, the same is
written and logged, and both ways fail alike. -/
theorem file_agrees_with_stream (g : Grid) {sink : Sink} (hf : sink.refusesFlush = false)
    {text : String} (hsize : text.utf8ByteSize ≤ CommandFile.maxSize)
    (hbackspace : '\x08' ∉ text.toList)
    (hx : ∀ line ∈ Text.pieces '\n' text, ¬isExitWord (Text.trim line))
    {fs : FileSystem} {path : Path} (hpath : path.bytes ≠ [])
    (hname : CommandFile.hasDottedName path = false)
    (hfound : fs.metadata path = .ok (.regular text.utf8ByteSize))
    (hopen : fs.openFile path = .ok (.ok text.toUTF8)) :
    ∃ file, CommandFile.load fs path = .ok file ∧ Agree g sink file (arrivals text.toUTF8) := by
  have hlines : ∀ line ∈ inputLines text, ¬isExitWord (Text.trim line) := by
    intro line hline
    obtain ⟨piece, hpiece, htrim⟩ := exists_piece_of_mem_inputLines hline
    rw [htrim]
    exact hx piece hpiece
  refine ⟨⟨path, instructions text⟩,
    CommandFile.load_of_openFile hpath hname hsize hfound hopen, ?_⟩
  rw [arrivals_toUTF8 hbackspace, ← cleaned_inputLines]
  exact agree_of_lines g hf hlines path

/-- Lines of all kinds on a sink too small for the second report. -/
theorem file_agrees_with_stream_cut_off :
    let g : Grid := ⟨5, 5, [], by decide, by decide, .nil⟩
    let sink : Sink := { capacity := some 12 }
    let text := " PLACE 1,2,EAST\r\n\n\tREPORT\u3000\r\r\nJUMP\rMOVE\nREPORT\nREPORT"
    let path : Path := .ofText "commands"
    let here : Place := { node := .directory [(path.bytes, .file text.toUTF8 true)] true }
    sink.refusesFlush = false ∧
    text.utf8ByteSize ≤ CommandFile.maxSize ∧
    '\x08' ∉ text.toList ∧
    (∀ line ∈ Text.pieces '\n' text, ¬isExitWord (Text.trim line)) ∧
    CommandFile.hasDottedName path = false ∧
    here.fileSystem.metadata path = .ok (.regular text.utf8ByteSize) ∧
    here.fileSystem.openFile path = .ok (.ok text.toUTF8) ∧
    ∃ file, CommandFile.load here.fileSystem path = .ok file ∧
      Agree g sink file (arrivals text.toUTF8) := by
  intro g sink text path here
  have hsize : text.utf8ByteSize ≤ CommandFile.maxSize := by decide
  have hbackspace : '\x08' ∉ text.toList := by decide
  have hx : ∀ line ∈ Text.pieces '\n' text, ¬isExitWord (Text.trim line) := by decide
  have hname : CommandFile.hasDottedName path = false := by decide
  have hfound : here.fileSystem.metadata path = .ok (.regular text.utf8ByteSize) := rfl
  have hopen : here.fileSystem.openFile path = .ok (.ok text.toUTF8) := rfl
  exact ⟨rfl, hsize, hbackspace, hx, hname, hfound, hopen,
    file_agrees_with_stream g rfl hsize hbackspace hx (by decide) hname hfound hopen⟩

end Session

end Gridbot
