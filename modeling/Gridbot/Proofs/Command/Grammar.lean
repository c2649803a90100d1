import Gridbot.Command.Parser
import Gridbot.Proofs.Text.Blank
import Gridbot.Proofs.Text.Numeral
import Gridbot.Proofs.Text.Pieces
import Mathlib.Data.List.Basic

/-!
# The grammar of instructions

`Written c line` derives the texts of a command from a grammar that knows nothing of trimming or of
cutting at commas: the five single words as they stand, and `PLACE `, two numerals and a heading
token, with commas between and blanks around each of the three.

* `written_of_parse`, `parse_of_written`: the reader accepts what the grammar derives and nothing
  else, and reads it as the command that it is derived for (`parse_eq_ok_iff_written`).
* `parse_text`: the text of a command is one of its texts.
-/

namespace Gridbot

namespace Command

/-- The texts of a command. -/
inductive Written : Command → String → Prop
  | move : Written move "MOVE"
  | left : Written left "LEFT"
  | right : Written right "RIGHT"
  | flip : Written flip "FLIP"
  | report : Written report "REPORT"
  /-- The numerals may have any length, as long as their values are coordinates. -/
  | place {p : Placement} {x y column row heading : String}
      (hx : Text.Numeral x.toList p.cell.x.toNat) (hy : Text.Numeral y.toList p.cell.y.toNat)
      (hcolumn : Text.Padded x column) (hrow : Text.Padded y row)
      (hheading : Text.Padded p.heading.token heading) :
      Written (place p) ("PLACE " ++ column ++ "," ++ row ++ "," ++ heading)

end Command

/-! ## Fields -/

namespace Text

theorem isBlank_eq_false_of_isDigit {c : Char} (h : c.isDigit) : isBlank c = false := by
  have hc : 48 ≤ c.toNat ∧ c.toNat ≤ 57 := Char.isDigit_iff_toNat.1 h
  unfold isBlank
  dsimp only
  simp only [Bool.or_eq_false_iff, Bool.and_eq_false_iff, decide_eq_false_iff_not,
    beq_eq_false_iff_ne]
  omega

theorem Numeral.trimmed {cs : List Char} {n : Nat} (h : Numeral cs n) : Trimmed cs :=
  ⟨fun _ hc => isBlank_eq_false_of_isDigit (h.isDigit_of_mem (List.mem_of_head? hc)),
    fun _ hc => isBlank_eq_false_of_isDigit (h.isDigit_of_mem (List.mem_of_getLast? hc))⟩

theorem Numeral.comma_not_mem {cs : List Char} {n : Nat} (h : Numeral cs n) : ',' ∉ cs :=
  fun hc => absurd (h.isDigit_of_mem hc) (by decide)

theorem comma_not_mem_of_allBlank {cs : List Char} (h : AllBlank cs) : ',' ∉ cs :=
  fun hc => absurd (h ',' hc) (by decide)

theorem Padded.comma_not_mem {inner text : String} (h : Padded inner text)
    (hi : ',' ∉ inner.toList) : ',' ∉ text.toList := by
  obtain ⟨before, after, hb, ha, rfl⟩ := h
  simp only [String.toList_append, List.mem_append, not_or]
  exact ⟨⟨comma_not_mem_of_allBlank hb, hi⟩, comma_not_mem_of_allBlank ha⟩

end Text

theorem Heading.trimmed_token (h : Heading) : Text.Trimmed h.token.toList := by
  cases h <;> exact ⟨by simp [token]; decide, by simp [token]; decide⟩

/-- Between `PLACE ` and a heading token there is room for anything, and no blank at the ends. -/
theorem Heading.trimmed_place (h : Heading) (middle : String) :
    Text.Trimmed ("PLACE " ++ middle ++ h.token).toList := by
  refine ⟨fun c hc => ?_, fun c hc => ?_⟩
  · have hP : 'P' = c := by simpa using hc
    subst hP
    decide
  · have hne : h.token.toList ≠ [] := by cases h <;> decide
    rw [String.toList_append, List.getLast?_append_of_ne_nil _ hne] at hc
    exact h.trimmed_token.2 c hc

theorem Heading.comma_not_mem_token (h : Heading) : ',' ∉ h.token.toList := by
  cases h <;> decide

theorem Placement.ofFields_eq_ok_iff {x y h : String} {p : Placement} :
    ofFields x y h = .ok p ↔
      Text.ofDecimal? x = some p.cell.x ∧ Text.ofDecimal? y = some p.cell.y ∧
        Heading.ofToken? h = some p.heading := by
  obtain ⟨⟨cx, cy⟩, k⟩ := p
  unfold ofFields
  split <;> simp_all [and_assoc]

namespace Command

/-! ## The reader, rule by rule -/

theorem placeFields?_eq_some_iff {line x y h : String} :
    placeFields? line = some [x, y, h] ↔ ∃ column row heading : String,
      line = "PLACE " ++ column ++ "," ++ row ++ "," ++ heading ∧
      (',' ∉ column.toList ∧ ',' ∉ row.toList ∧ ',' ∉ heading.toList) ∧
      Text.trim column = x ∧ Text.trim row = y ∧ Text.trim heading = h := by
  unfold placeFields?
  rw [Option.map_eq_some_iff]
  simp only [List.isPrefixOf?_eq_some_iff_append_eq]
  constructor
  · rintro ⟨rest, hline, hfields⟩
    obtain ⟨column, row, heading, hp, rfl, rfl, rfl⟩ :
        ∃ column row heading, Text.pieces ',' (String.ofList rest) = [column, row, heading] ∧
          Text.trim column = x ∧ Text.trim row = y ∧ Text.trim heading = h := by
      simpa [List.map_eq_cons_iff, and_assoc] using hfields
    obtain ⟨hrest, hcommas⟩ := Text.pieces_eq_three_iff.1 hp
    refine ⟨column, row, heading, ?_, hcommas, rfl, rfl, rfl⟩
    rw [String.toList_ofList] at hrest
    rw [← String.toList_inj, ← hline, hrest]
    simp
  · rintro ⟨column, row, heading, rfl, hcommas, rfl, rfl, rfl⟩
    refine ⟨column.toList ++ ',' :: (row.toList ++ ',' :: heading.toList), by simp, ?_⟩
    rw [Text.pieces_eq_three_iff.2 ⟨String.toList_ofList, hcommas⟩]
    rfl

/-- A text with fields is neither a word nor blank. -/
theorem ne_word_of_placeFields? {line : String} {fields : List String}
    (h : placeFields? line = some fields) : ofToken? line = none ∧ Text.trim line ≠ "" := by
  constructor
  · cases hc : ofToken? line with
    | none => rfl
    | some c =>
      obtain ⟨hplace, rfl⟩ := ofToken?_eq_some_iff.1 hc
      cases c with
      | place p => exact absurd rfl (hplace p)
      | _ => cases h
  · obtain ⟨rest, hline, -⟩ := Option.map_eq_some_iff.1 h
    rw [List.isPrefixOf?_eq_some_iff_append_eq] at hline
    rw [Ne, Text.trim_eq_empty_iff, ← hline]
    exact fun hb => absurd (hb 'P' (by simp)) (by decide)

theorem parse_eq_ok_iff {line : String} {c : Command} :
    parse line = .ok c ↔ ofToken? line = some c ∨
      ∃ p x y h, c = place p ∧ placeFields? line = some [x, y, h] ∧
        Placement.ofFields x y h = .ok p := by
  constructor
  · intro hparse
    unfold parse at hparse
    split at hparse
    · rename_i hc
      cases hparse
      exact Or.inl hc
    · split at hparse
      · cases hparse
      · split at hparse
        · cases hparse
        · rename_i x y h hf
          cases hp : Placement.ofFields x y h with
          | error e => rw [hp] at hparse; cases hparse
          | ok p =>
            rw [hp] at hparse
            cases hparse
            exact Or.inr ⟨p, x, y, h, rfl, hf, hp⟩
        · cases hparse
  · rintro (hc | ⟨p, x, y, h, rfl, hf, hp⟩)
    · simp only [parse, hc]
    · obtain ⟨hword, hblank⟩ := ne_word_of_placeFields? hf
      simp only [parse, hword, hblank, hf, hp, if_false]
      rfl

/-! ## The reader and the grammar -/

theorem written_of_parse {line : String} {c : Command} (h : parse line = .ok c) :
    Written c line := by
  rcases parse_eq_ok_iff.1 h with hc | ⟨p, x, y, k, rfl, hf, hp⟩
  · obtain ⟨hplace, rfl⟩ := ofToken?_eq_some_iff.1 hc
    cases c with
    | place p => exact absurd rfl (hplace p)
    | move => exact .move
    | left => exact .left
    | right => exact .right
    | flip => exact .flip
    | report => exact .report
  · obtain ⟨column, row, heading, rfl, -, rfl, rfl, rfl⟩ := placeFields?_eq_some_iff.1 hf
    obtain ⟨hx, hy, hk⟩ := Placement.ofFields_eq_ok_iff.1 hp
    refine .place (Text.ofDecimal?_eq_some_iff_numeral.1 hx)
      (Text.ofDecimal?_eq_some_iff_numeral.1 hy) (Text.padded_trim column) (Text.padded_trim row) ?_
    rw [← Heading.ofToken?_eq_some_iff.1 hk]
    exact Text.padded_trim heading

theorem parse_of_written {line : String} {c : Command} (h : Written c line) :
    parse line = .ok c := by
  cases h with
  | @place p x y column row heading hx hy hcolumn hrow hheading =>
    refine parse_eq_ok_iff.2 (Or.inr ⟨p, x, y, p.heading.token, rfl, ?_, ?_⟩)
    · refine placeFields?_eq_some_iff.2 ⟨column, row, heading, rfl, ⟨?_, ?_, ?_⟩, ?_, ?_, ?_⟩
      · exact hcolumn.comma_not_mem hx.comma_not_mem
      · exact hrow.comma_not_mem hy.comma_not_mem
      · exact hheading.comma_not_mem p.heading.comma_not_mem_token
      · exact Text.trim_eq_iff.2 ⟨hx.trimmed, hcolumn⟩
      · exact Text.trim_eq_iff.2 ⟨hy.trimmed, hrow⟩
      · exact Text.trim_eq_iff.2 ⟨p.heading.trimmed_token, hheading⟩
    · exact Placement.ofFields_eq_ok_iff.2 ⟨Text.ofDecimal?_eq_some_iff_numeral.2 hx,
        Text.ofDecimal?_eq_some_iff_numeral.2 hy, Heading.ofToken?_token p.heading⟩
  | _ => rfl

/-! ## The text of a command -/

theorem written_text (c : Command) : Written c c.text := by
  cases c with
  | place p =>
    have h : Written (place p) ("PLACE " ++ Text.decimal p.cell.x ++ "," ++ Text.decimal p.cell.y ++
        "," ++ p.heading.token) :=
      .place (Text.numeral_decimal p.cell.x) (Text.numeral_decimal p.cell.y)
        (Text.Padded.refl _) (Text.Padded.refl _) (Text.Padded.refl _)
    simpa only [text, Placement.report, String.append_assoc] using h
  | move => exact .move
  | left => exact .left
  | right => exact .right
  | flip => exact .flip
  | report => exact .report

/-- What is written for a command reads back as the command. -/
theorem parse_text (c : Command) : parse c.text = .ok c := parse_of_written (written_text c)

/-! ## The accepted texts -/

/-- **The grammar.** A text is read as a command exactly if it is one of the texts of the
command. -/
theorem parse_eq_ok_iff_written (line : String) (c : Command) :
    parse line = .ok c ↔ Written c line := ⟨written_of_parse, parse_of_written⟩

end Command

end Gridbot
