import Gridbot.Proofs.Session.Layout

/-!
# The instructions of a text as a normal form

Instructions are tidy lines: with something in them, no blank at either end, and no line feed. Put
on lines of their own, they are the instructions of the text that this makes. So a text can be
replaced by its instructions and cut again, as often as one likes.

* `instructions_append`: the instructions on both sides of a line feed, one after the other.
* `instructions_join_iff`: the lists that stay as they are when they are joined and cut are the tidy
  ones.
* `instructions_normal_form`: all laws together.
-/

namespace Gridbot

/-- Every line has something in it, no blank at either end, and no line feed. -/
def Tidy (lines : List String) : Prop :=
  ∀ line ∈ lines, line ≠ "" ∧ Text.trim line = line ∧ '\n' ∉ line.toList

/-- The lines with a line ending between every two of them. -/
def LineEnding.join (ending : LineEnding) (lines : List String) : String :=
  (ending.lead ++ "\n").intercalate lines

/-! ## Cutting -/

theorem Text.pieces_append (separator : Char) (before after : String) :
    pieces separator (before ++ String.singleton separator ++ after) =
      pieces separator before ++ pieces separator after := by
  simp only [pieces, String.toList_append, String.toList_singleton, List.append_assoc,
    List.singleton_append, List.splitOn_append_cons_self, List.map_append]

/-- A line feed parts the instructions in front of it from those behind it. -/
theorem instructions_append (before after : String) :
    instructions (before ++ "\n" ++ after) = instructions before ++ instructions after := by
  have hpieces : Text.pieces '\n' (before ++ "\n" ++ after) =
      Text.pieces '\n' before ++ Text.pieces '\n' after := Text.pieces_append '\n' before after
  simp only [instructions, hpieces, List.map_append, List.filter_append]

theorem tidy_instructions (text : String) : Tidy (instructions text) := by
  intro line hline
  obtain ⟨hmem, hne⟩ := List.mem_filter.1 hline
  obtain ⟨piece, hpiece, rfl⟩ := List.mem_map.1 hmem
  obtain ⟨cs, hcs, rfl⟩ := List.mem_map.1 hpiece
  refine ⟨by simpa using hne, Text.trim_trim _, fun hbreak => ?_⟩
  -- trimming adds no character, so the line feed would be in the piece
  obtain ⟨before, after, -, -, hpadded⟩ := Text.padded_trim (String.ofList cs)
  have hchar : '\n' ∈ (String.ofList cs).toList := by
    rw [hpadded, String.toList_append, String.toList_append]
    exact List.mem_append_left _ (List.mem_append_right _ hbreak)
  rw [String.toList_ofList] at hchar
  exact (Text.mem_of_mem_splitOn hcs hchar).2 rfl

/-! ## Joining -/

/-- Lines that are joined are laid out with the same ending everywhere. -/
theorem exists_layout_join (ending : LineEnding) {lines : List String} (hne : lines ≠ [])
    (h : ∀ line ∈ lines, '\n' ∉ line.toList) :
    ∃ t : Layout, t.text = ending.join lines ∧ t.contents = lines := by
  induction lines with
  | nil => exact absurd rfl hne
  | cons line rest ih =>
    obtain ⟨hline, hrest⟩ := List.forall_mem_cons.1 h
    cases rest with
    | nil =>
      refine ⟨⟨[], line, by simp, hline⟩, ?_, rfl⟩
      simp [Layout.text, Layout.cuts, LineEnding.join]
    | cons next rest =>
      obtain ⟨t, htext, hcontents⟩ := ih (List.cons_ne_nil _ _) hrest
      have hunbroken : ∀ l ∈ (line, ending) :: t.lines, '\n' ∉ l.1.toList :=
        List.forall_mem_cons.2 ⟨hline, t.lines_unbroken⟩
      have hcuts : t.cuts ≠ [] := by simp [Layout.cuts]
      refine ⟨⟨(line, ending) :: t.lines, t.rest, hunbroken, t.rest_unbroken⟩, ?_, ?_⟩
      · have hjoin : ending.join (line :: next :: rest) =
            line ++ ending.lead ++ "\n" ++ ending.join (next :: rest) := by
          rw [LineEnding.join, String.intercalate_cons_cons, ← String.append_assoc]
          rfl
        rw [hjoin, ← htext]
        exact String.intercalate_cons_of_ne_nil hcuts
      · rw [← hcontents]
        rfl

theorem instructions_join (ending : LineEnding) {lines : List String}
    (h : ∀ line ∈ lines, '\n' ∉ line.toList) :
    instructions (ending.join lines) = cleaned lines := by
  cases lines with
  | nil => cases ending <;> decide
  | cons line rest =>
    obtain ⟨t, htext, hcontents⟩ := exists_layout_join ending (List.cons_ne_nil line rest) h
    rw [← htext, instructions_text, hcontents]

theorem Tidy.cleaned_eq {lines : List String} (h : Tidy lines) : cleaned lines = lines := by
  have htrim : lines.map Text.trim = lines.map id :=
    List.map_congr_left fun line hline => (h line hline).2.1
  rw [cleaned, htrim, List.map_id, List.filter_eq_self]
  exact fun line hline => decide_eq_true (h line hline).1

/-- Lines are the instructions of the text that they make if and only if they are tidy. -/
theorem instructions_join_iff (ending : LineEnding) {lines : List String} :
    instructions (ending.join lines) = lines ↔ Tidy lines := by
  constructor
  · intro h
    rw [← h]
    exact tidy_instructions _
  · intro h
    rw [instructions_join ending fun line hline => (h line hline).2.2, h.cleaned_eq]

/-- **Instructions are a normal form.** They are the lines of a text, trimmed and without the blank
ones, and a line feed anywhere in the text parts them. They are always tidy. Joined, with either
line ending, and cut again they are the same lines in the same order, and so is every tidy list of
lines, but no other. -/
theorem instructions_normal_form :
    (∀ text, instructions text = cleaned (inputLines text)) ∧
    (∀ before after,
      instructions (before ++ "\n" ++ after) = instructions before ++ instructions after) ∧
    (∀ text, Tidy (instructions text)) ∧
    (∀ (ending : LineEnding) text,
      instructions (ending.join (instructions text)) = instructions text) ∧
    ∀ (ending : LineEnding) lines, instructions (ending.join lines) = lines ↔ Tidy lines := by
  refine ⟨fun text => (cleaned_inputLines text).symm, instructions_append, tidy_instructions, ?_,
    fun ending _ => instructions_join_iff ending⟩
  intro ending text
  exact (instructions_join_iff ending).2 (tidy_instructions text)

/-- A carriage return inside a line parts nothing. -/
example : instructions "\tMOVE \r\n\u3000\n\nLEFT\rRIGHT\r" = ["MOVE", "LEFT\rRIGHT"] := by decide

end Gridbot
