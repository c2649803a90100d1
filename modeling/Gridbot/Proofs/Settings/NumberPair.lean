import Gridbot.Proofs.Command.Grammar
import Gridbot.Settings

/-!
# The grammar of number pairs

A board size and a blocked cell are written as two numerals with a comma between and blanks around
each. `WrittenPair` derives these texts without trimming or cutting at commas.

Numbers in pairs are read in two places and in two ways. A setting is cut at its first comma, and
what stands on either side has to be a number between blanks. An instruction is cut at every comma,
and the first two of its three fields have to be numbers between blanks. Both come to the same
texts.

* `numberPair?_eq_some_iff`: the reader accepts what the grammar derives and nothing else, and
  reads it as the numbers that it is derived for.
* `writtenPair_decimal`: two decimals around a comma are one of the texts of their numbers.
* `BoardSize.parse_eq_ok_iff`, `parseObstacle_eq_ok_iff`: what is read as a board size or as a
  blocked cell.
* `Command.written_place_iff`: what may stand in front of the last comma of an instruction.
* `numbers_are_read_alike`: the settings and the instructions compared.
-/

namespace Gridbot

/-- The texts of a pair of numbers. The numerals may have any length, as long as their values fit in
32 bits. -/
inductive WrittenPair (a b : UInt32) : String → Prop
  | mk {x y left right : String} (hx : Text.Numeral x.toList a.toNat)
      (hy : Text.Numeral y.toList b.toNat) (hleft : Text.Padded x left)
      (hright : Text.Padded y right) : WrittenPair a b (left ++ "," ++ right)

/-! ## The reader, part by part -/

theorem cutAt?_eq_some_iff {separator : Char} {cs before after : List Char} :
    cutAt? separator cs = some (before, after) ↔
      cs = before ++ separator :: after ∧ separator ∉ before := by
  unfold cutAt?
  constructor
  · intro h
    split at h
    · cases h
    · rename_i c rest hrest
      rw [Option.some.injEq, Prod.mk.injEq] at h
      obtain ⟨rfl, rfl⟩ := h
      have hc : c = separator := by
        have := List.head?_dropWhile_not (· ≠ separator) cs
        rw [hrest] at this
        simpa using this
      subst hc
      refine ⟨by rw [← hrest, List.takeWhile_append_dropWhile], fun hm => ?_⟩
      have := List.all_eq_true.1 List.all_takeWhile c hm
      simp at this
  · rintro ⟨rfl, h⟩
    rw [Text.dropWhile_ne_append_cons h, Text.takeWhile_ne_append_cons h]

/-- Between blanks there is one numeral, and its value is read. -/
theorem paddedNumber?_eq_some_iff {cs : List Char} {n : UInt32} :
    paddedNumber? cs = some n ↔
      ∃ x : String, Text.Numeral x.toList n.toNat ∧ Text.Padded x (String.ofList cs) := by
  have htrim : String.ofList (Text.trimChars cs) = Text.trim (String.ofList cs) := by
    rw [Text.trim, String.toList_ofList]
  unfold paddedNumber?
  rw [htrim, Text.ofDecimal?_eq_some_iff_numeral]
  constructor
  · exact fun h => ⟨_, h, Text.padded_trim _⟩
  · rintro ⟨x, hx, hpadded⟩
    rw [Text.trim_eq_iff.2 ⟨hx.trimmed, hpadded⟩]
    exact hx

theorem numberPair?_eq_some_iff {text : String} {a b : UInt32} :
    numberPair? text = some (a, b) ↔ WrittenPair a b text := by
  unfold numberPair?
  constructor
  · intro h
    split at h
    · cases h
    rename_i before after hcut
    split at h
    · rename_i m n ha hb
      cases h
      obtain ⟨x, hx, hleft⟩ := paddedNumber?_eq_some_iff.1 ha
      obtain ⟨y, hy, hright⟩ := paddedNumber?_eq_some_iff.1 hb
      have htext : text = String.ofList before ++ "," ++ String.ofList after := by
        rw [← String.toList_inj, (cutAt?_eq_some_iff.1 hcut).1]
        simp
      rw [htext]
      exact ⟨hx, hy, hleft, hright⟩
    · cases h
  · rintro ⟨hx, hy, hleft, hright⟩
    rename_i x y left right
    have hcut : cutAt? ',' (left ++ "," ++ right).toList = some (left.toList, right.toList) := by
      rw [cutAt?_eq_some_iff]
      exact ⟨by simp, hleft.comma_not_mem hx.comma_not_mem⟩
    have ha : paddedNumber? left.toList = some a :=
      paddedNumber?_eq_some_iff.2 ⟨x, hx, by rwa [String.ofList_toList]⟩
    have hb : paddedNumber? right.toList = some b :=
      paddedNumber?_eq_some_iff.2 ⟨y, hy, by rwa [String.ofList_toList]⟩
    rw [hcut]
    dsimp only
    rw [ha, hb]

theorem numberPair?_eq_none_iff {text : String} :
    numberPair? text = none ↔ ∀ a b, ¬WrittenPair a b text := by
  rw [Option.eq_none_iff_forall_ne_some]
  constructor
  · exact fun h a b hw => h (a, b) (numberPair?_eq_some_iff.2 hw)
  · exact fun h p hp => h p.1 p.2 (numberPair?_eq_some_iff.1 hp)

theorem writtenPair_decimal (a b : UInt32) :
    WrittenPair a b (Text.decimal a ++ "," ++ Text.decimal b) :=
  ⟨Text.numeral_decimal a, Text.numeral_decimal b, Text.Padded.refl _, Text.Padded.refl _⟩

/-! ## Settings -/

namespace BoardSize

theorem parse_eq_ok_iff {text : String} {b : BoardSize} :
    parse text = .ok b ↔ WrittenPair b.length b.width text := by
  obtain ⟨length, width⟩ := b
  rw [← numberPair?_eq_some_iff]
  unfold parse
  cases numberPair? text <;> simp [Prod.ext_iff]

theorem parse_eq_error_iff {text : String} {e : ConfigError} :
    parse text = .error e ↔ e = .boardSize text ∧ ∀ a b, ¬WrittenPair a b text := by
  rw [← numberPair?_eq_none_iff]
  unfold parse
  cases numberPair? text <;> simp [eq_comm]

theorem parse_text (b : BoardSize) : parse b.text = .ok b :=
  parse_eq_ok_iff.2 (writtenPair_decimal b.length b.width)

end BoardSize

theorem parseObstacle_eq_ok_iff {text : String} {c : Cell} :
    parseObstacle text = .ok c ↔ WrittenPair c.x c.y text := by
  obtain ⟨x, y⟩ := c
  rw [← numberPair?_eq_some_iff]
  unfold parseObstacle
  cases numberPair? text <;> simp [Prod.ext_iff]

theorem parseObstacle_eq_error_iff {text : String} {e : ConfigError} :
    parseObstacle text = .error e ↔ e = .obstacle text ∧ ∀ a b, ¬WrittenPair a b text := by
  rw [← numberPair?_eq_none_iff]
  unfold parseObstacle
  cases numberPair? text <;> simp [eq_comm]

theorem parseObstacle_decimal (c : Cell) :
    parseObstacle (Text.decimal c.x ++ "," ++ Text.decimal c.y) = .ok c :=
  parseObstacle_eq_ok_iff.2 (writtenPair_decimal c.x c.y)

/-! ## Instructions -/

/-- In front of the last comma of an instruction, which is the one in front of the heading, the pair
of its numbers is written. -/
theorem Command.written_place_iff {text : String} {c : Cell} {k : Heading} :
    Written (place ⟨c, k⟩) ("PLACE " ++ text ++ ("," ++ k.token)) ↔ WrittenPair c.x c.y text := by
  constructor
  · intro h
    generalize hline : "PLACE " ++ text ++ ("," ++ k.token) = line at h
    cases h with
    | @place _ x y column row heading hx hy hcolumn hrow hheading =>
      have hchars : text.toList ++ ',' :: k.token.toList =
          (column ++ "," ++ row).toList ++ ',' :: heading.toList := by
        simpa using congrArg String.toList hline
      -- the text may have commas of its own, so it is the last one that is compared
      have hcomma := k.comma_not_mem_token
      obtain ⟨htext, -⟩ := Text.last_separator_inj hcomma (hheading.comma_not_mem hcomma) hchars
      rw [String.toList_inj.1 htext]
      exact ⟨hx, hy, hcolumn, hrow⟩
  · rintro ⟨hx, hy, hleft, hright⟩
    have hwritten : Written (place ⟨c, k⟩) _ := .place hx hy hleft hright (Text.Padded.refl k.token)
    simpa only [String.append_assoc] using hwritten

theorem Command.parse_place_iff {text : String} {c : Cell} {k : Heading} :
    parse ("PLACE " ++ text ++ ("," ++ k.token)) = .ok (place ⟨c, k⟩) ↔
      WrittenPair c.x c.y text :=
  ⟨fun h => written_place_iff.1 (written_of_parse h),
    fun h => parse_of_written (written_place_iff.2 h)⟩

/-! ## Both -/

/-- **One way to write numbers.** A text is read as a blocked cell exactly if it is read as a board
size with the same numbers, and exactly if an instruction with this text in the place of its numbers
is read so. A text that is no pair of numbers is refused, and the error carries the text as it
is. What is written for a board size is read as this board size. -/
theorem numbers_are_read_alike (text : String) :
    (∀ a b : UInt32,
      (parseObstacle text = .ok ⟨a, b⟩ ↔ BoardSize.parse text = .ok ⟨a, b⟩) ∧
      (BoardSize.parse text = .ok ⟨a, b⟩ ↔
        Command.parse ("PLACE " ++ text ++ ",NORTH") = .ok (.place ⟨⟨a, b⟩, .north⟩))) ∧
    (∀ e, parseObstacle text = .error e ↔ e = .obstacle text ∧ ∀ a b, ¬WrittenPair a b text) ∧
    (∀ e, BoardSize.parse text = .error e ↔
      e = .boardSize text ∧ ∀ a b, ¬WrittenPair a b text) ∧
    ∀ b : BoardSize, BoardSize.parse b.text = .ok b := by
  refine ⟨fun a b => ⟨?_, ?_⟩, fun e => parseObstacle_eq_error_iff,
    fun e => BoardSize.parse_eq_error_iff, BoardSize.parse_text⟩
  · rw [parseObstacle_eq_ok_iff, BoardSize.parse_eq_ok_iff]
  · have hnorth : ",NORTH" = "," ++ Heading.north.token := by decide
    rw [BoardSize.parse_eq_ok_iff, hnorth, Command.parse_place_iff]

/-- Blanks and zeros are fine in all three places, a sign and a third number in none. -/
example : BoardSize.parse " 007,\t10" = .ok ⟨7, 10⟩ ∧
    Command.parse "PLACE  007,\t10,NORTH" = .ok (.place ⟨⟨7, 10⟩, .north⟩) ∧
    BoardSize.parse "+7,10" = .error (.boardSize "+7,10") ∧
    parseObstacle "7,10,0" = .error (.obstacle "7,10,0") := by
  decide +kernel

end Gridbot
