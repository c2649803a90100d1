import Gridbot.Proofs.Command.Faults
import Gridbot.Proofs.Session.Thinning

/-!
# Blanks around a line

A session trims a line before it reads it, and the reader trims each field once more. The first of
these adds lines to those that are read: a word with blanks around it, and `PLACE` with blanks in
front. It takes none away, and it changes the command of none.

* `Written.trim`: a text of a command is still one of its texts when it is trimmed.
* `executes_iff`: what a line carries out is what its trimmed text is read as.
* `parse_fails_iff`: which lines are carried out although they are not read as they stand.
* `margins_are_harmless`: these for the lines of a session.
-/

namespace Gridbot

namespace Text

/-- The first character is blank. -/
def StartsBlank (text : String) : Prop := ∃ c, text.toList.head? = some c ∧ isBlank c

/-- The last character is blank. -/
def EndsBlank (text : String) : Prop := ∃ c, text.toList.getLast? = some c ∧ isBlank c

end Text

/-- The line makes the robot carry out the command `c`: the robot, the events that are logged and
what goes to the sink are those of `c`, and so is the result, unless the sink refuses a report. -/
structure Session.Executes (s : Session) (line : String) (c : Command) : Prop where
  robot : (s.executeLine line).1.robot = (s.robot.apply s.grid c).2
  log : (s.executeLine line).1.log = s.log ++ [LogEvent.executing (Text.trim line),
    LogEvent.ofOutcome c (s.robot.apply s.grid c).2 (s.robot.apply s.grid c).1]
  sink : (s.executeLine line).1.sink = match (s.robot.apply s.grid c).1 with
    | .reported p => (s.sink.write p.reportLine.toUTF8).1
    | _ => s.sink
  result : (s.executeLine line).2 = .ok (.executed c (s.robot.apply s.grid c).1) ∨
    ∃ p e, (s.robot.apply s.grid c).1 = .reported p ∧
      (s.sink.write p.reportLine.toUTF8).2 = .error e ∧
      (s.executeLine line).2 = .error (.reportNotWritten e)

/-! ## Blank ends -/

namespace Text

theorem trimmed_iff {text : String} :
    Trimmed text.toList ↔ ¬StartsBlank text ∧ ¬EndsBlank text := by
  simp only [Trimmed, StartsBlank, EndsBlank, not_exists, not_and, Bool.not_eq_true]

/-- Nothing is trimmed at the front of a text that does not start blank. -/
theorem eq_trim_append {text : String} (h : ¬StartsBlank text) :
    ∃ after : String, AllBlank after.toList ∧ text = trim text ++ after := by
  obtain ⟨before, after, hb, ha, htext⟩ := padded_trim text
  refine ⟨after, ha, ?_⟩
  cases hchars : before.toList with
  | nil => rw [String.toList_eq_nil_iff.1 hchars, String.empty_append] at htext; exact htext
  | cons b bs =>
    refine absurd ⟨b, ?_, hb b (by rw [hchars]; exact List.mem_cons_self)⟩ h
    rw [htext, String.toList_append, String.toList_append, hchars]
    rfl

end Text

/-! ## Texts of a command, trimmed or not -/

namespace Command

theorem trim_text (c : Command) : Text.trim c.text = c.text :=
  Text.trim_eq_iff.2 ⟨c.trimmed_text, .refl _⟩

/-- A command without arguments has no text but its word. -/
theorem Written.eq_text {c : Command} {line : String} (h : Written c line)
    (hc : ∀ p, c ≠ .place p) : line = c.text := by
  cases h with
  | place => exact absurd rfl (hc _)
  | _ => rfl

theorem Written.not_startsBlank {c : Command} {line : String} (h : Written c line) :
    ¬Text.StartsBlank line := by
  by_cases hc : ∀ p, c ≠ .place p
  · rw [h.eq_text hc]
    exact (Text.trimmed_iff.1 c.trimmed_text).1
  · cases h with
    | place =>
      rintro ⟨d, hd, hblank⟩
      have hP : 'P' = d := by simpa using hd
      subst hP
      exact absurd hblank (by decide)
    | _ => exact absurd (fun p => Command.noConfusion) hc

/-- Blanks behind a text of a `place` are blanks behind its heading. -/
theorem Written.append_blank {p : Placement} {line after : String} (h : Written (.place p) line)
    (ha : Text.AllBlank after.toList) : Written (.place p) (line ++ after) := by
  cases h with
  | place hx hy hcolumn hrow hheading =>
    obtain ⟨front, back, hf, hb, rfl⟩ := hheading
    rw [String.append_assoc]
    refine .place hx hy hcolumn hrow ⟨front, back ++ after, hf, ?_, ?_⟩
    · rw [String.toList_append]
      exact hb.append ha
    · simp only [String.append_assoc]

/-- What is trimmed off a text of a command is no part of the command. -/
theorem Written.trim {c : Command} {line : String} (h : Written c line) :
    Written c (Text.trim line) := by
  by_cases hc : ∀ p, c ≠ .place p
  · rw [h.eq_text hc, trim_text]
    exact written_text c
  · cases h with
    | @place p x y column row heading hx hy hcolumn hrow hheading =>
      obtain ⟨front, back, hf, hb, rfl⟩ := hheading
      have hwritten : Written (.place p)
          ("PLACE " ++ column ++ "," ++ row ++ "," ++ (front ++ p.heading.token)) :=
        .place hx hy hcolumn hrow ⟨front, "", hf, by simp [Text.AllBlank], by simp⟩
      have htrimmed := p.heading.trimmed_place (column ++ "," ++ row ++ "," ++ front)
      simp only [String.append_assoc] at hwritten htrimmed ⊢
      rw [Text.trim_eq_iff.2 ⟨htrimmed, "", back, by simp [Text.AllBlank], hb,
        by simp only [String.append_assoc, String.empty_append]⟩]
      exact hwritten
    | _ => exact absurd (fun p => Command.noConfusion) hc

theorem parse_trim_of_parse {line : String} {c : Command} (h : parse line = .ok c) :
    parse (Text.trim line) = .ok c := parse_of_written (written_of_parse h).trim

/-- **Lines gained by trimming.** A line whose trimmed text is read as `c` is itself not read
exactly if it starts with a blank, or if `c` is a word and the line ends with a blank. -/
theorem parse_fails_iff {line : String} {c : Command} (h : parse (Text.trim line) = .ok c) :
    (∃ e, parse line = .error e) ↔
      Text.StartsBlank line ∨ (∀ p, c ≠ place p) ∧ Text.EndsBlank line := by
  constructor
  · rintro ⟨e, he⟩
    by_contra hends
    rw [not_or, not_and] at hends
    obtain ⟨hstart, hend⟩ := hends
    obtain ⟨after, ha, hline⟩ := Text.eq_trim_append hstart
    have hread : parse line = .ok c := by
      by_cases hc : ∀ p, c ≠ place p
      · rw [← h, Text.trim, Text.trimChars_eq_self (Text.trimmed_iff.2 ⟨hstart, hend hc⟩),
          String.ofList_toList]
      · obtain ⟨p, rfl⟩ : ∃ p, c = place p := by simpa using hc
        rw [hline]
        exact parse_of_written ((written_of_parse h).append_blank ha)
    rw [hread] at he
    cases he
  · intro hends
    cases hread : parse line with
    | error e => exact ⟨e, rfl⟩
    | ok d =>
      have hwritten := written_of_parse hread
      obtain rfl : d = c := by
        have hd := parse_trim_of_parse hread
        rw [h] at hd
        exact (Except.ok.inj hd).symm
      rcases hends with hstart | ⟨hc, hend⟩
      · exact absurd hstart hwritten.not_startsBlank
      · rw [hwritten.eq_text hc] at hend
        exact absurd hend (Text.trimmed_iff.1 (trimmed_text d)).2

/-- What is left of a line after trimming is empty to the reader only if it is empty. -/
theorem parse_trim_eq_error_empty_iff {line : String} :
    parse (Text.trim line) = .error .empty ↔ Text.trim line = "" := by
  rw [parse_eq_error_iff_breaks]
  constructor
  · intro h
    cases h with
    | blank hblank => rw [← Text.trim_trim, Text.trim_eq_empty_iff.2 hblank]
  · intro h
    rw [h]
    exact .blank (by simp [Text.AllBlank])

end Command

/-! ## What a line carries out -/

namespace RobotState

/-- Only a report reports. -/
theorem eq_report_of_apply {g : Grid} {s : RobotState} {c : Command} {p : Placement}
    (h : (s.apply g c).1 = .reported p) : c = .report := by
  cases hn : s.next g c with
  | error r =>
    rw [apply_of_error hn] at h
    cases h
  | ok t =>
    rcases next_cases hn with ⟨q, -, -, rfl⟩ | ⟨q, d, -, -, -, -, rfl⟩ | ⟨q, k, -, -, rfl⟩ |
      ⟨q, -, hc, -⟩
    · rw [apply_of_ok hn] at h
      cases h
    · rw [apply_of_ok hn] at h
      cases h
    · rw [apply_of_ok hn] at h
      cases h
    · exact hc

theorem respond_ne_invalid_empty (g : Grid) (s : RobotState) (line : String) :
    (s.respond g line).result ≠ .invalid .empty := by
  unfold respond
  dsimp only
  split
  · exact LineResult.noConfusion
  · rename_i hblank
    rw [← Command.parse_trim_eq_error_empty_iff] at hblank
    cases hc : Command.parse (Text.trim line) with
    | error e =>
      rw [hc] at hblank
      intro h
      cases h
      exact hblank rfl
    | ok c => exact LineResult.noConfusion

end RobotState

namespace Session

theorem executes_of_parse {s : Session} {line : String} {c : Command}
    (h : Command.parse (Text.trim line) = .ok c) : s.Executes line c where
  robot := by rw [executeLine_robot, RobotState.obey_of_parse h]
  log := by rw [executeLine_log, RobotState.respond_eq_of_parse h]
  sink := by
    rw [executeLine_sink, ← RobotState.respond_report?, RobotState.respond_of_parse h]
    cases (s.robot.apply s.grid c).1 <;> rfl
  result := by
    rcases executeLine_snd_cases s line with hok | ⟨p, hp, hwrite, herror⟩
    · rw [hok, RobotState.respond_of_parse h]
      exact Or.inl rfl
    · right
      rw [← RobotState.respond_report?, RobotState.respond_of_parse h] at hp
      refine ⟨p, .full, ?_, hwrite, herror⟩
      cases ho : (s.robot.apply s.grid c).1 with
      | reported q =>
        rw [ho] at hp
        cases hp
        rfl
      | _ =>
        rw [ho] at hp
        cases hp

theorem parse_of_executes {s : Session} {line : String} {c : Command} (h : s.Executes line c) :
    Command.parse (Text.trim line) = .ok c := by
  rcases h.result with hok | ⟨p, e, hp, -, herror⟩
  · exact RobotState.parse_of_executed (executeLine_snd_of_ok hok).symm
  · -- only a report fails, and only a report is an outcome that could
    obtain rfl : c = .report := RobotState.eq_report_of_apply hp
    rcases executeLine_snd_cases s line with hok | ⟨q, hq, -, -⟩
    · rw [hok] at herror
      cases herror
    · exact (RobotState.obey_of_report hq).1

theorem executes_iff {s : Session} {line : String} {c : Command} :
    s.Executes line c ↔ Command.parse (Text.trim line) = .ok c :=
  ⟨parse_of_executes, executes_of_parse⟩

theorem executeLine_of_padded (s : Session) {line text : String} (h : Text.Padded line text) :
    s.executeLine text = s.executeLine line := by
  rw [← executeLine_trim, Text.trim_of_padded h, executeLine_trim]

/-- **Blanks around a line.** Whatever blanks are put around a line, it does the same in every
respect. A line that is read as it stands carries out what it is read as. One that carries out a
command is not read as it stands just if it starts with a blank, or ends with one and the command is
a word. And no line is found to be empty by the reader. -/
theorem margins_are_harmless (s : Session) (line : String) :
    (∀ before after : String, Text.AllBlank before.toList → Text.AllBlank after.toList →
      s.executeLine (before ++ line ++ after) = s.executeLine line) ∧
    (∀ c, Command.parse line = .ok c → ∀ d, s.Executes line d ↔ d = c) ∧
    (∀ c, s.Executes line c → ((∃ e, Command.parse line = .error e) ↔
      Text.StartsBlank line ∨ (∀ p, c ≠ .place p) ∧ Text.EndsBlank line)) ∧
    (s.executeLine line).2 ≠ .ok (.invalid .empty) := by
  refine ⟨fun before after hb ha => executeLine_of_padded s ⟨before, after, hb, ha, rfl⟩,
    fun c hc d => ?_, fun c hc => Command.parse_fails_iff (executes_iff.1 hc), fun h => ?_⟩
  · rw [executes_iff, Command.parse_trim_of_parse hc, Except.ok.injEq]
    exact eq_comm
  · exact RobotState.respond_ne_invalid_empty s.grid s.robot line (executeLine_snd_of_ok h).symm

/-- A word is not read with a blank behind it, and is carried out all the same. -/
example : Command.parse "MOVE\u2003" = .error (.unknown "MOVE\u2003") ∧
    Command.parse (Text.trim "MOVE\u2003") = .ok .move ∧
    Command.parse "PLACE 0,0,EAST\u2003" = .ok (.place ⟨⟨0, 0⟩, .east⟩) := by
  decide +kernel

end Session

end Gridbot
