import Gridbot.Proofs.Log

/-!
# The shortest text of a command

A command has many texts, as blanks may stand around fields and zeros in front of numbers. The one
that is written for it has none of these, and is shorter than every other.

* `undercuts_of_written`: this for the texts that the grammar derives, piece by piece.
* `text_is_shortest`: so for the texts that are read as the command; and a text written for what was
  read is written for it again.
-/

namespace Gridbot

namespace Text

/-- The text has fewer characters than the other, unless it is the other. -/
def Undercuts (text other : String) : Prop := text = other ∨ text.length < other.length

theorem Undercuts.refl (text : String) : Undercuts text text := Or.inl rfl

theorem Undercuts.length_le {text other : String} (h : Undercuts text other) :
    text.length ≤ other.length := by
  rcases h with rfl | h
  · exact Nat.le_refl _
  · exact Nat.le_of_lt h

theorem Undercuts.trans {x y z : String} (hxy : Undercuts x y) (hyz : Undercuts y z) :
    Undercuts x z := by
  rcases hxy with rfl | hxy
  · exact hyz
  · exact Or.inr (Nat.lt_of_lt_of_le hxy hyz.length_le)

theorem Undercuts.append {x y u v : String} (hxy : Undercuts x y) (huv : Undercuts u v) :
    Undercuts (x ++ u) (y ++ v) := by
  rcases hxy with rfl | hlt
  · rcases huv with rfl | hlt
    · exact .refl _
    · right
      rw [String.length_append, String.length_append]
      exact Nat.add_lt_add_left hlt _
  · right
    rw [String.length_append, String.length_append]
    exact Nat.add_lt_add_of_lt_of_le hlt huv.length_le

theorem undercuts_of_padded {inner text : String} (h : Padded inner text) :
    Undercuts inner text := by
  obtain ⟨before, after, -, -, rfl⟩ := h
  have hempty : ∀ t : String, Undercuts "" t := by
    intro t
    rcases Nat.eq_zero_or_pos t.length with h | h
    · exact Or.inl (String.length_eq_zero_iff.1 h).symm
    · exact Or.inr h
  simpa using ((hempty before).append (.refl inner)).append (hempty after)

theorem decimal_undercuts {n : UInt32} {x : String} (h : Numeral x.toList n.toNat) :
    Undercuts (decimal n) x := by
  unfold Undercuts
  rw [← String.toList_inj, ← String.length_toList, ← String.length_toList, toList_decimal]
  exact h.toDigits_eq_or_length_lt

end Text

namespace Command

/-- Reads an instruction and writes it anew. -/
def normalize (line : String) : Except ParseError String := (parse line).map text

/-- **Texts of the grammar.** The text that is written for a command undercuts all others. -/
theorem undercuts_of_written {c : Command} {line : String} (h : Written c line) :
    Text.Undercuts c.text line := by
  cases h with
  | @place p x y column row heading hx hy hcolumn hrow hheading =>
    have hx := (Text.decimal_undercuts hx).trans (Text.undercuts_of_padded hcolumn)
    have hy := (Text.decimal_undercuts hy).trans (Text.undercuts_of_padded hrow)
    have hk := Text.undercuts_of_padded hheading
    have hword := Text.Undercuts.refl "PLACE "
    have hcomma := Text.Undercuts.refl ","
    have h := ((((hword.append hx).append hcomma).append hy).append hcomma).append hk
    simpa only [text, Placement.report, String.append_assoc] using h
  | _ => exact .refl _

theorem normalize_text (c : Command) : normalize c.text = .ok c.text := by
  rw [normalize, parse_text]
  rfl

/-- **The shortest text.** The text that is written for a command is read as the command. Every
other text that is read so has more characters. Hence commands have different texts, and normalizing
a text twice is normalizing it once. -/
theorem text_is_shortest (c : Command) :
    parse c.text = .ok c ∧
    (∀ line, parse line = .ok c →
      c.text.length ≤ line.length ∧ (line.length = c.text.length → line = c.text)) ∧
    (∀ d : Command, d.text = c.text → d = c) ∧
    ∀ line, (normalize line).bind normalize = normalize line := by
  refine ⟨parse_text c, fun line h => ?_, fun d => text_inj, fun line => ?_⟩
  · have hundercuts := undercuts_of_written (written_of_parse h)
    refine ⟨hundercuts.length_le, fun hlength => ?_⟩
    rcases hundercuts with rfl | hlt
    · rfl
    · omega
  · cases h : parse line with
    | error e =>
      rw [normalize, h]
      rfl
    | ok d =>
      have hline : normalize line = .ok d.text := by
        rw [normalize, h]
        rfl
      rw [hline]
      exact normalize_text d

/-- Zeros and blanks go. -/
example : normalize "PLACE  007,\t10 ,EAST " = .ok "PLACE 7,10,EAST" := by decide +kernel

end Command

end Gridbot
