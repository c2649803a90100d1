import Gridbot.Proofs.Command.Grammar
import Gridbot.Proofs.Session.Observation
import Gridbot.Proofs.Session.Placed

/-!
# Reports as checkpoints

A report, put behind `PLACE `, is the text of the command that brings a robot to where the report
was made. Such a command is never refused, as the robot that made the report stood on an open cell;
and nothing but the robot's place settles what later lines show.

* `executeLine_place`: the line does this to any session on the same grid.
* `restore_from_report`: and the session goes on like the one that made the report.
-/

namespace Gridbot

/-! ## The text of a command as a line -/

namespace Command

theorem text_place (p : Placement) : (place p).text = "PLACE " ++ p.report := rfl

/-- No text of a command begins or ends with a blank. -/
theorem trimmed_text (c : Command) : Text.Trimmed c.text.toList := by
  cases c with
  | place p =>
    obtain ⟨⟨x, y⟩, k⟩ := p
    have h := k.trimmed_place (Text.decimal x ++ "," ++ Text.decimal y ++ ",")
    rwa [text_place, Placement.report, ← String.append_assoc]
  | _ => exact ⟨by simp [text]; decide, by simp [text]; decide⟩

/-- A line that is the text of a command with blanks around it is read as that command. -/
theorem parse_trim_of_padded {c : Command} {line : String} (h : Text.Padded c.text line) :
    parse (Text.trim line) = .ok c := by
  rw [Text.trim_eq_iff.2 ⟨c.trimmed_text, h⟩, parse_text]

end Command

namespace Session

/-! ## Placing -/

/-- A line that reads as a `place` on an open cell is applied. -/
theorem executeLine_place {t : Session} {p : Placement} {line : String}
    (hline : Command.parse (Text.trim line) = .ok (.place p)) (hp : t.grid.isOpen p.cell) :
    (t.executeLine line).2 = .ok (.executed (.place p) .applied) ∧
      (t.executeLine line).1.robot = .placed p := by
  have happly : t.robot.apply t.grid (.place p) = (.applied, .placed p) := by
    apply RobotState.apply_of_ok
    rw [RobotState.next_place]
    exact Grid.enter_eq_ok_iff.2 ⟨hp, rfl⟩
  have hresult : (t.robot.respond t.grid line).result = .executed (.place p) .applied := by
    rw [RobotState.respond_of_parse hline, happly]
  have hreport : (t.robot.obey t.grid line).2 = none := by
    rw [← RobotState.respond_report?, hresult]
    rfl
  constructor
  · rw [executeLine_snd_of_none hreport, hresult]
  · rw [executeLine_robot, RobotState.obey_of_parse hline, happly]

/-- A report behind `PLACE ` is such a line, also when the report's line end is left on it. -/
theorem parse_resume {p : Placement} {resume : String}
    (h : resume = "PLACE " ++ p.report ∨ resume = "PLACE " ++ p.report ++ "\n") :
    Command.parse (Text.trim resume) = .ok (.place p) := by
  apply Command.parse_trim_of_padded
  rcases h with rfl | rfl
  · exact Text.Padded.refl _
  · exact ⟨"", "\n", by simp [Text.AllBlank], by simp [Text.AllBlank]; decide,
      by simp [Command.text_place]⟩

/-- What a report writes. -/
theorem observe_report {s : Session} {p : Placement} (hs : s.robot = .placed p)
    (hsink : s.sink.capacity = none) :
    (s.observe "REPORT").written = (p.report ++ "\n").toUTF8 := by
  have hobey : (RobotState.placed p).obey s.grid "REPORT" = (.placed p, some p) := rfl
  rw [observe_of_unlimited hsink, hs]
  unfold RobotState.shows
  dsimp only
  rw [hobey]
  exact ByteArray.append_empty

/-- **Checkpoints.** Let the lines of a history place the robot of a new session. What `REPORT`
writes then is a report that restores this moment: in any session on the same grid, wherever its
robot is, the report behind `PLACE ` is applied and brings the robot to where it was made, and from
there every line shows what it shows after the history. -/
theorem restore_from_report (g : Grid) (sink : Sink) (hsink : sink.capacity = none)
    (history : List String) (p : Placement)
    (hplaced : ((start g sink).carry history).robot = .placed p)
    (t : Session) (hgrid : t.grid = g) (ht : t.sink.capacity = none)
    (resume : String)
    (hresume : resume = "PLACE " ++ p.report ∨ resume = "PLACE " ++ p.report ++ "\n")
    (lines : List String) :
    let s := (start g sink).carry history
    (s.observe "REPORT").written = (p.report ++ "\n").toUTF8 ∧
    (t.executeLine resume).2 = .ok (.executed (.place p) .applied) ∧
    (t.executeLine resume).1.robot = s.robot ∧
    (t.executeLine resume).1.observations lines = s.observations lines := by
  intro s
  have hscap : s.sink.capacity = none := (carry_capacity (start g sink) history).trans hsink
  have hsgrid : s.grid = g := carry_grid (start g sink) history
  have hopen : g.isOpen p.cell := by
    have hstands := RobotState.stands_after (RobotState.stands_unplaced g) history
    have hrobot : s.robot = RobotState.unplaced.after g history :=
      carry_robot (start g sink) history
    rw [← hrobot] at hstands
    exact hstands p hplaced
  obtain ⟨hresult, hrobot⟩ := executeLine_place (t := t) (parse_resume hresume) (hgrid ▸ hopen)
  refine ⟨observe_report hplaced hscap, hresult, hrobot.trans hplaced.symm, ?_⟩
  apply observations_congr
  · rw [executeLine_grid, hgrid, hsgrid]
  · exact hrobot.trans hplaced.symm
  · rw [executeLine_capacity, ht]
  · exact hscap

/-- A robot that ran into an obstacle is restored on a session whose robot was elsewhere. -/
theorem restore_from_report_blocked :
    let g : Grid := ⟨5, 4, [⟨2, 3⟩], by decide, by decide, List.pairwise_singleton _ _⟩
    let history := ["PLACE 002, 2,NORTH", "move", "MOVE"]
    let p : Placement := ⟨⟨2, 2⟩, .north⟩
    let s := (start g {}).carry history
    let t := (start g {}).carry ["PLACE 4,3,WEST", "REPORT"]
    s.robot = .placed p ∧ t.grid = g ∧ t.sink.capacity = none ∧
    (s.observe "REPORT").written = "2,2,NORTH\n".toUTF8 ∧
    (t.executeLine "PLACE 2,2,NORTH\n").2 = .ok (.executed (.place p) .applied) ∧
    (t.executeLine "PLACE 2,2,NORTH\n").1.robot = s.robot ∧
    (t.executeLine "PLACE 2,2,NORTH\n").1.observations ["RIGHT", "MOVE", "REPORT"] =
      s.observations ["RIGHT", "MOVE", "REPORT"] := by
  intro g history p s t
  have hs : s.robot = .placed p := by decide +kernel
  have ht : t.sink.capacity = none := by decide +kernel
  have hreport : p.report = "2,2,NORTH" := by decide +kernel
  have h := restore_from_report g {} rfl history p hs t rfl ht "PLACE 2,2,NORTH\n"
    (Or.inr (by rw [hreport]; rfl)) ["RIGHT", "MOVE", "REPORT"]
  rw [hreport] at h
  exact ⟨hs, rfl, ht, h⟩

end Session

end Gridbot
