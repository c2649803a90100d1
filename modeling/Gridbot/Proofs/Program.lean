import Gridbot.Program
import Gridbot.Proofs.CommandFile.Checks
import Gridbot.Proofs.Session.Readback
import Gridbot.Proofs.Session.Sources

/-!
# Runs with a command file

A run settles its arguments, then the grid, then the file, and only then carries out lines. The
first two failures after the arguments end it with nothing on standard output. Behind them nothing
can fail any more, since a line that is no instruction or is rejected is no failure, and standard
output takes every report.

* `prepare_of_gridError`, `prepare_of_sourceError`, `prepare_of_load`: the three ways through the
  preparation.
* `run_all_or_nothing`: how a run with a command file ends.
-/

namespace Gridbot

namespace Session

/-! ## Batches on a sink without a limit -/

/-- On a sink without a limit that flushes, no line is a failure. -/
theorem runLines_of_unlimited {s : Session} (h : s.sink.capacity = none)
    (hf : s.sink.refusesFlush = false) (lines : List String) :
    (s.runLines lines).2 = .ok () ∧
      (s.runLines lines).1.sink.bytes =
        s.sink.bytes ++ reportBytes (s.robot.reports s.grid lines) := by
  have hholds : s.sink.Holds s.sink.bytes := holds_of_unlimited h
  constructor
  · obtain ⟨hrun, -⟩ := runLines_append_of_fits hholds lines (by rw [h]; trivial) []
    rw [List.append_nil] at hrun
    rw [hrun]
    exact flush_snd_of_accepts (by rw [carry_refusesFlush, hf])
  · rw [runLines_bytes hholds, h]
    rfl

end Session

namespace Program

variable {fs : FileSystem} {load : Path → Except SourceError CommandFile} {input : ByteArray}
  {arguments : List String} {s : Settings} {path : String}

/-! ## Preparation -/

theorem prepare_of_gridError {e : GridError}
    (hs : Invocation.ofArguments arguments = .ok (.run s)) (hg : s.grid = .error e) :
    prepare load arguments = .error (fail s.verbosity [.started] (.ofGrid s.board e)) := by
  unfold prepare
  rw [hs]
  dsimp only
  rw [hg]

theorem prepare_of_sourceError {g : Grid} {e : SourceError}
    (hs : Invocation.ofArguments arguments = .ok (.run s)) (hg : s.grid = .ok g)
    (hf : s.commandFile = some path) (hl : load (.ofText path) = .error e) :
    prepare load arguments =
      .error (fail s.verbosity [.started, .gridInitialized g.length g.width]
        (.ofSource path e)) := by
  unfold prepare
  rw [hs]
  dsimp only
  rw [hg, hf]
  dsimp only
  rw [hl]
  rfl

theorem prepare_of_load {g : Grid} {file : CommandFile}
    (hs : Invocation.ofArguments arguments = .ok (.run s)) (hg : s.grid = .ok g)
    (hf : s.commandFile = some path) (hl : load (.ofText path) = .ok file) :
    prepare load arguments =
      .ok ⟨s.verbosity, .onFile g {} file, some file.commands⟩ := by
  unfold prepare
  rw [hs]
  dsimp only
  rw [hg, hf]
  dsimp only
  rw [hl]
  rfl

/-! ## Ends -/

/-- The run ends before its first line: a failure is told on standard error, behind the part of
`log` that is shown, and standard output stays empty. -/
structure Stopped (fs : FileSystem) (input : ByteArray) (arguments : List String) (v : Verbosity)
    (log : List LogEvent) (f : Failure) : Prop where
  unprepared : ∃ exit, prepare (CommandFile.load fs) arguments = .error exit
  noLine : ∀ line, .executing line ∉ log
  status : (run fs input arguments).status = 1
  stdout : (run fs input arguments).stdout = .empty
  stderr : (run fs input arguments).stderr = v.render log ++ f.text

/-- The run carries out all lines, and standard output is their reports. -/
structure Finished (fs : FileSystem) (input : ByteArray) (arguments : List String) (g : Grid)
    (lines : List String) : Prop where
  status : (run fs input arguments).status = 0
  stdout : (run fs input arguments).stdout = reportBytes (RobotState.unplaced.reports g lines)

theorem stopped_of_prepare {v : Verbosity} {log : List LogEvent} {f : Failure}
    (h : prepare (CommandFile.load fs) arguments = .error (fail v log f))
    (hlog : ∀ line, .executing line ∉ log) (input : ByteArray) :
    Stopped fs input arguments v log f := by
  have hrun : run fs input arguments = fail v log f := by
    unfold run
    rw [h]
  exact ⟨⟨_, h⟩, hlog, by rw [hrun]; rfl, by rw [hrun]; rfl, by rw [hrun]; rfl⟩

theorem finished_of_prepare {v : Verbosity} {g : Grid} {file : CommandFile}
    (h : prepare (CommandFile.load fs) arguments =
      .ok ⟨v, .onFile g {} file, some file.commands⟩) (input : ByteArray) :
    Finished fs input arguments g file.commands := by
  obtain ⟨hok, hbytes⟩ :=
    Session.runLines_of_unlimited (s := .onFile g {} file) rfl rfl file.commands
  have hrun : run fs input arguments =
      finish v ((Session.onFile g {} file).runLines file.commands).1 (.ok ()) := by
    unfold run
    rw [h]
    dsimp only
    rw [hok]
  have hempty : (Session.onFile g {} file).sink.bytes = .empty := rfl
  rw [hempty, ByteArray.empty_append] at hbytes
  refine ⟨by rw [hrun]; rfl, ?_⟩
  rw [hrun]
  exact hbytes

/-- **All or nothing.** A run with a command file stops with the error of the grid if a dimension
of the board is zero, whatever the file is; if not, it stops with the error of the file if that does
not load. Either way no line is carried out and nothing goes to standard output. Otherwise it
succeeds, and standard output is the reports of the file's instructions on a new robot. -/
theorem run_all_or_nothing (hs : Invocation.ofArguments arguments = .ok (.run s))
    (hf : s.commandFile = some path) (fs : FileSystem) (input : ByteArray) :
    (s.board.length = 0 ∨ s.board.width = 0 →
      Stopped fs input arguments s.verbosity [.started]
        (.ofGrid s.board ⟨s.board.length, s.board.width⟩)) ∧
    (¬(s.board.length = 0 ∨ s.board.width = 0) →
      (∀ e, CommandFile.load fs (.ofText path) = .error e →
        Stopped fs input arguments s.verbosity
          [.started, .gridInitialized s.board.length s.board.width] (.ofSource path e)) ∧
      ∀ file, CommandFile.load fs (.ofText path) = .ok file →
        ∃ g text, Grid.ofCells? s.board.length s.board.width s.obstacles = .ok g ∧
          fs.Holds (.ofText path) text ∧
          Finished fs input arguments g (instructions text)) := by
  constructor
  · intro hzero
    have hg : s.grid = .error ⟨s.board.length, s.board.width⟩ :=
      Grid.ofCells?_eq_error_iff.2 ⟨hzero, rfl⟩
    exact stopped_of_prepare (prepare_of_gridError hs hg) (by simp) input
  · intro hpos
    obtain ⟨g, hg⟩ : ∃ g, s.grid = .ok g := by
      cases hg : s.grid with
      | error e => exact absurd (Grid.ofCells?_eq_error_iff.1 hg).1 hpos
      | ok g => exact ⟨g, rfl⟩
    obtain ⟨hlength, hwidth, -⟩ := Grid.ofCells?_eq_ok_iff.1 hg
    constructor
    · intro e hl
      have hprepare := prepare_of_sourceError hs hg hf hl
      rw [hlength, hwidth] at hprepare
      exact stopped_of_prepare hprepare (by simp) input
    · intro file hl
      obtain ⟨text, htext, rfl⟩ := CommandFile.exists_text_of_load hl
      exact ⟨g, text, hg, htext, finished_of_prepare (prepare_of_load hs hg hf hl) input⟩

/-- A file of a malformed line, a rejected command and a report, with a log, on three boards: one
without a cell, one for which the file is missing, and one on which all goes well. -/
theorem run_all_or_nothing_commands :
    let text := "JUMP\n PLACE 1,1,WEST\nPLACE 0,1,EAST\r\n\nMOVE\nREPORT"
    let path : Path := .ofText "commands"
    let here : Place := { node := .directory [(path.bytes, .file text.toUTF8 true)] true }
    let fs := here.fileSystem
    let options (board : String) : List String := ["--log-level", "debug", "-o", "1,1", "-b", board]
    Stopped fs .empty (options "0,2" ++ ["commands"]) (.upTo .debug) [.started]
      (.ofGrid ⟨0, 2⟩ ⟨0, 2⟩) ∧
    Stopped fs .empty (options "2,2" ++ ["missing"]) (.upTo .debug)
      [.started, .gridInitialized 2 2] (.ofSource "missing" (.notFound (.ofText "missing"))) ∧
    (run fs .empty (options "2,2" ++ ["commands"])).status = 0 ∧
    (run fs .empty (options "2,2" ++ ["commands"])).stdout = "0,1,EAST\n".toUTF8 := by
  intro text path here fs options
  have hzero : Invocation.ofArguments (options "0,2" ++ ["commands"]) =
      .ok (.run ⟨some "commands", ⟨0, 2⟩, [⟨1, 1⟩], .upTo .debug⟩) := rfl
  have hmissing : Invocation.ofArguments (options "2,2" ++ ["missing"]) =
      .ok (.run ⟨some "missing", ⟨2, 2⟩, [⟨1, 1⟩], .upTo .debug⟩) := rfl
  have hgood : Invocation.ofArguments (options "2,2" ++ ["commands"]) =
      .ok (.run ⟨some "commands", ⟨2, 2⟩, [⟨1, 1⟩], .upTo .debug⟩) := rfl
  have hload : CommandFile.load fs path = .ok ⟨path, instructions text⟩ :=
    CommandFile.load_of_openFile (by decide) (by decide) (by decide) rfl rfl
  obtain ⟨g, found, hg, hfound, hfinished⟩ :=
    ((run_all_or_nothing hgood rfl fs .empty).2 (by decide)).2 _ hload
  have hgrid : g = ⟨2, 2, [⟨1, 1⟩], by decide, by decide, by decide⟩ :=
    Except.ok.inj (hg.symm.trans rfl)
  have hbytes : found.toUTF8 = text.toUTF8 :=
    Except.ok.inj (Except.ok.inj (hfound.opens.symm.trans rfl))
  obtain rfl : found = text := String.toByteArray_inj.1 hbytes
  subst hgrid
  refine ⟨(run_all_or_nothing hzero rfl fs .empty).1 (by decide),
    ((run_all_or_nothing hmissing rfl fs .empty).2 (by decide)).1 _ rfl, hfinished.status, ?_⟩
  rw [hfinished.stdout]
  subst text
  rfl

end Program

end Gridbot
