import Gridbot.Proofs.Session.Cleaned

/-!
# Texts that are laid out differently

The lines of a text can be indented, end in a line feed or in a carriage return and a line feed,
and stand between blank lines. Its instructions leave all of that out, and a session that gets the
raw pieces of the text instead leaves it out too.

* `pieces_text`: a carriage return in front of a line feed belongs to the line it ends.
* `respaced_iff`: lists of lines have the same cleaned lines exactly if they differ in blank lines
  and in the blanks around lines only.
* `runLines_of_layout`: a session does the same with the instructions and with the raw pieces, and
  the same with texts that differ in their layout only.
-/

namespace Gridbot

/-! ## Layouts -/

/-- How a line ends. -/
inductive LineEnding
  | lineFeed
  | carriageReturnLineFeed
  deriving DecidableEq, Repr

/-- What stands in front of the line feed of a line ending. -/
def LineEnding.lead : LineEnding → String
  | lineFeed => ""
  | carriageReturnLineFeed => "\r"

/-- A text as it is laid out: lines with their endings, then what stands behind the last ending. -/
structure Layout where
  lines : List (String × LineEnding)
  rest : String
  /-- A line ends at its ending and not before. -/
  lines_unbroken : ∀ line ∈ lines, '\n' ∉ line.1.toList
  rest_unbroken : '\n' ∉ rest.toList

namespace Layout

/-- The lines without their endings. -/
def contents (t : Layout) : List String := t.lines.map Prod.fst ++ [t.rest]

/-- The lines cut at line feeds alone. -/
def cuts (t : Layout) : List String :=
  t.lines.map (fun line => line.1 ++ line.2.lead) ++ [t.rest]

/-- The text itself. -/
def text (t : Layout) : String := "\n".intercalate t.cuts

theorem lineFeed_not_mem_cuts (t : Layout) : ∀ cut ∈ t.cuts, '\n' ∉ cut.toList := by
  intro cut hcut
  rcases List.mem_append.1 hcut with h | h
  · obtain ⟨line, hline, rfl⟩ := List.mem_map.1 h
    have hlead : '\n' ∉ line.2.lead.toList := by
      cases line.2 <;> decide
    rw [String.toList_append, List.mem_append]
    exact not_or.2 ⟨t.lines_unbroken line hline, hlead⟩
  · rw [List.mem_singleton] at h
    subst h
    exact t.rest_unbroken

/-- A text is cut at the line feeds of its endings. -/
theorem pieces_text (t : Layout) : Text.pieces '\n' t.text = t.cuts := by
  have hne : t.cuts.map String.toList ≠ [] := by simp [cuts]
  rw [Text.pieces_eq_iff, Text.splitOn_eq_iff hne, text, String.toList_intercalate]
  refine ⟨rfl, fun part hpart => ?_⟩
  obtain ⟨cut, hcut, rfl⟩ := List.mem_map.1 hpart
  exact t.lineFeed_not_mem_cuts cut hcut

end Layout

/-- Every text is laid out with line feeds alone. -/
theorem exists_layout (text : String) :
    ∃ t : Layout, t.text = text ∧ t.contents = Text.pieces '\n' text := by
  obtain ⟨front, last, hpieces⟩ : ∃ front last, Text.pieces '\n' text = front ++ [last] := by
    have hne : Text.pieces '\n' text ≠ [] := by
      simp [Text.pieces, List.splitOn_ne_nil]
    exact ⟨_, _, (List.dropLast_concat_getLast hne).symm⟩
  obtain ⟨hjoin, hunbroken⟩ := (Text.splitOn_eq_iff (by simp)).1 (Text.pieces_eq_iff.1 hpieces)
  have hmem : ∀ piece ∈ front ++ [last], '\n' ∉ piece.toList :=
    fun piece hp => hunbroken _ (List.mem_map_of_mem hp)
  let t : Layout := {
    lines := front.map (·, .lineFeed)
    rest := last
    lines_unbroken := by
      intro line hline
      obtain ⟨piece, hp, rfl⟩ := List.mem_map.1 hline
      exact hmem piece (List.mem_append_left _ hp)
    rest_unbroken := hmem last (by simp) }
  have hcuts : t.cuts = front ++ [last] := by
    simp [t, Layout.cuts, LineEnding.lead, Function.comp_def]
  have hcontents : t.contents = front ++ [last] := by
    simp [t, Layout.contents, Function.comp_def]
  refine ⟨t, ?_, hcontents.trans hpieces.symm⟩
  rw [← String.toList_inj, Layout.text, hcuts, String.toList_intercalate]
  exact hjoin

/-! ## Blank lines and blanks around lines -/

/-- Lists of lines that differ in blank lines and in the blanks around lines only. -/
inductive Respaced : List String → List String → Prop
  | nil : Respaced [] []
  | blank_left {line : String} {xs ys : List String} (h : Text.AllBlank line.toList) :
    Respaced xs ys → Respaced (line :: xs) ys
  | blank_right {line : String} {xs ys : List String} (h : Text.AllBlank line.toList) :
    Respaced xs ys → Respaced xs (line :: ys)
  | padded {x y inner : String} {xs ys : List String} (hx : Text.Padded inner x)
    (hy : Text.Padded inner y) : Respaced xs ys → Respaced (x :: xs) (y :: ys)

theorem cleaned_cons (line : String) (rest : List String) :
    cleaned (line :: rest) = cleaned [line] ++ cleaned rest :=
  cleaned_append [line] rest

theorem cleaned_singleton_of_padded {inner x y : String} (hx : Text.Padded inner x)
    (hy : Text.Padded inner y) : cleaned [x] = cleaned [y] := by
  simp only [cleaned, List.map_singleton, Text.trim_of_padded hx, Text.trim_of_padded hy]

theorem Respaced.cleaned_eq {xs ys : List String} (h : Respaced xs ys) :
    cleaned xs = cleaned ys := by
  induction h with
  | nil => rfl
  | blank_left h _ ih => rw [cleaned_cons_of_blank (Text.trim_eq_empty_iff.2 h), ih]
  | blank_right h _ ih => rw [cleaned_cons_of_blank (Text.trim_eq_empty_iff.2 h), ih]
  | padded hx hy _ ih =>
    rw [cleaned_cons, cleaned_singleton_of_padded hx hy, ih, ← cleaned_cons]

/-- Blank lines alone are no lines at all. -/
theorem respaced_nil_of_cleaned {ys : List String} (h : cleaned ys = []) : Respaced [] ys := by
  induction ys with
  | nil => exact .nil
  | cons y ys ih =>
    by_cases hy : Text.trim y = ""
    · rw [cleaned_cons_of_blank hy] at h
      exact .blank_right (Text.trim_eq_empty_iff.1 hy) (ih h)
    · rw [cleaned_cons_of_ne hy] at h
      cases h

/-- A line that is not blank has its counterpart behind blank lines. -/
theorem respaced_cons_of_cleaned {x : String} {xs ys : List String}
    (h : Text.trim x :: cleaned xs = cleaned ys)
    (ih : ∀ zs, cleaned xs = cleaned zs → Respaced xs zs) : Respaced (x :: xs) ys := by
  induction ys with
  | nil => cases h
  | cons y ys ihy =>
    by_cases hy : Text.trim y = ""
    · rw [cleaned_cons_of_blank hy] at h
      exact .blank_right (Text.trim_eq_empty_iff.1 hy) (ihy h)
    · rw [cleaned_cons_of_ne hy, List.cons.injEq] at h
      have hpadded := Text.padded_trim y
      rw [← h.1] at hpadded
      exact .padded (Text.padded_trim x) hpadded (ih ys h.2)

theorem respaced_iff {xs ys : List String} : Respaced xs ys ↔ cleaned xs = cleaned ys := by
  constructor
  · exact Respaced.cleaned_eq
  · intro h
    induction xs generalizing ys with
    | nil => exact respaced_nil_of_cleaned h.symm
    | cons x xs ih =>
      by_cases hx : Text.trim x = ""
      · rw [cleaned_cons_of_blank hx] at h
        exact .blank_left (Text.trim_eq_empty_iff.1 hx) (ih h)
      · rw [cleaned_cons_of_ne hx] at h
        exact respaced_cons_of_cleaned h fun zs => ih

/-! ## Texts -/

/-- The two texts have layouts that differ in line endings, in blank lines and in the blanks around
lines only. -/
def SameContent (text other : String) : Prop :=
  ∃ t u : Layout, t.text = text ∧ u.text = other ∧ Respaced t.contents u.contents

/-- The instructions of a text do not depend on its line endings. -/
theorem instructions_text (t : Layout) : instructions t.text = cleaned t.contents := by
  have htrim : ∀ line : String × LineEnding,
      Text.trim (line.1 ++ line.2.lead) = Text.trim line.1 := by
    intro line
    have hlead : Text.AllBlank line.2.lead.toList := by
      cases line.2 <;> decide
    exact Text.trim_of_padded ⟨"", line.2.lead, by decide, hlead, by simp⟩
  have hcuts : t.cuts.map Text.trim = t.contents.map Text.trim := by
    simp [Layout.cuts, Layout.contents, htrim]
  unfold instructions cleaned
  rw [t.pieces_text, hcuts]

/-- Texts have the same instructions exactly if they differ in their layout only. -/
theorem sameContent_iff {text other : String} :
    SameContent text other ↔ instructions text = instructions other := by
  constructor
  · rintro ⟨t, u, rfl, rfl, h⟩
    rw [instructions_text, instructions_text, h.cleaned_eq]
  · intro h
    obtain ⟨t, rfl, -⟩ := exists_layout text
    obtain ⟨u, rfl, -⟩ := exists_layout other
    rw [instructions_text, instructions_text] at h
    exact ⟨t, u, rfl, rfl, respaced_iff.2 h⟩

namespace Session

theorem runLines_pieces (s : Session) (text : String) :
    s.runLines (Text.pieces '\n' text) = s.runLines (instructions text) :=
  (runLines_cleaned s (Text.pieces '\n' text)).symm

/-- **Cleaning keeps the meaning.** The instructions of a text are the lines it arrives in, trimmed
and without the blank ones. From any session, on any sink, they do what the raw pieces of the text
between its line feeds do: the same result, and the same session afterwards with all that it wrote,
flushed and logged. So texts that differ in line endings, in blank lines and in the blanks around
lines only do the same, cleaned or raw. -/
theorem runLines_of_layout (s : Session) :
    (∀ text, instructions text = cleaned (inputLines text) ∧
      s.runLines (instructions text) = s.runLines (Text.pieces '\n' text)) ∧
    ∀ text other, SameContent text other →
      s.runLines (instructions text) = s.runLines (instructions other) ∧
      s.runLines (Text.pieces '\n' text) = s.runLines (Text.pieces '\n' other) := by
  constructor
  · intro text
    exact ⟨(cleaned_inputLines text).symm, (s.runLines_pieces text).symm⟩
  · intro text other h
    have hinstructions := sameContent_iff.1 h
    refine ⟨by rw [hinstructions], ?_⟩
    rw [runLines_pieces, runLines_pieces, hinstructions]

/-- Other endings, an indented line, a line of exotic blanks and a carriage return that ends no
line, on a sink that the report does not fit in. -/
theorem runLines_of_layout_cut_off :
    let g : Grid := ⟨5, 5, [], by decide, by decide, .nil⟩
    let s : Session := start g { capacity := some 4, refusesFlush := true }
    let text := "PLACE 1,2,EAST\nREPORT\nMOVE\n"
    let other := "\r\n\tPLACE 1,2,EAST\r\nREPORT \r\n\u2003\u3000\nMOVE\r"
    SameContent text other ∧
    instructions text = ["PLACE 1,2,EAST", "REPORT", "MOVE"] ∧
    s.runLines (instructions text) = s.runLines (instructions other) ∧
    s.runLines (Text.pieces '\n' text) = s.runLines (Text.pieces '\n' other) := by
  intro g s text other
  have hsame : SameContent text other := sameContent_iff.2 (by decide)
  exact ⟨hsame, by decide, (runLines_of_layout s).2 text other hsame⟩

end Session

end Gridbot
