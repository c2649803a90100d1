import Gridbot.Proofs.Command.Grammar

/-!
# What is wrong with a text

A text that is no instruction is refused for the first rule that it breaks. The rules are, in this
order: a text has something besides blanks; it is a word or begins with `PLACE `; it has two commas;
what stands in front of the first of them is a coordinate, and so is what stands in front of the
second; and what stands behind is a heading.

`Breaks line e` says which rule that is, and with what error it is named, from the characters of the
text alone.

* `breaks_of_parse`, `parse_of_breaks`: the reader refuses exactly the texts that break a rule.
* `parse_refuses_for_first_broken_rule`: the condition for each kind of error, and what part of the
  text an error carries.
-/

namespace Gridbot

/-! ## Rules -/

/-- The text is a numeral, with any number of zeros in front, and its value fits in 32 bits. -/
def Text.IsCoordinate (text : String) : Prop := ∃ n, Numeral text.toList n ∧ n ≤ 4294967295

/-- The text is `field` with blanks around it, and has no comma. -/
structure Text.Field (field text : String) : Prop where
  trimmed : Trimmed field.toList
  padded : Padded field text
  comma_not_mem : ',' ∉ text.toList

namespace Command

/-- The commands without arguments, as they are written. -/
def words : List String := ["MOVE", "LEFT", "RIGHT", "FLIP", "REPORT"]

/-- The text begins with the word for placing and its space. -/
def Places (line : String) : Prop := "PLACE ".toList <+: line.toList

/-- Behind `PLACE `, the text has these three fields, with commas between them. -/
inductive HasFields : String → String → String → String → Prop
  | intro {x y h column row heading : String} (hx : Text.Field x column) (hy : Text.Field y row)
      (hh : Text.Field h heading) :
      HasFields ("PLACE " ++ column ++ "," ++ row ++ "," ++ heading) x y h

/-- The first rule that a text breaks, by the error that names it. -/
inductive Breaks (line : String) : ParseError → Prop
  | blank (hblank : Text.AllBlank line.toList) : Breaks line .empty
  | unknown (hblank : ¬Text.AllBlank line.toList) (hword : line ∉ words)
      (hplaces : ¬Places line) : Breaks line (.unknown line)
  | count (hplaces : Places line) (hcount : 1 + line.toList.count ',' ≠ 3) :
      Breaks line (.fieldCount (1 + line.toList.count ','))
  | column {x y h : String} (hfields : HasFields line x y h) (hx : ¬Text.IsCoordinate x) :
      Breaks line (.coordinate x)
  | row {x y h : String} (hfields : HasFields line x y h) (hx : Text.IsCoordinate x)
      (hy : ¬Text.IsCoordinate y) : Breaks line (.coordinate y)
  | heading {x y h : String} (hfields : HasFields line x y h) (hx : Text.IsCoordinate x)
      (hy : Text.IsCoordinate y) (hh : ∀ k : Heading, h ≠ k.token) : Breaks line (.heading h)

end Command

/-! ## Fields -/

namespace Text

theorem isCoordinate_iff {text : String} : IsCoordinate text ↔ (ofDecimal? text).isSome := by
  rw [Option.isSome_iff_exists]
  constructor
  · rintro ⟨n, hn, hle⟩
    have hvalue : (UInt32.ofNat n).toNat = n :=
      UInt32.toNat_ofNat_of_lt' (Nat.lt_succ_of_le hle)
    exact ⟨UInt32.ofNat n, ofDecimal?_eq_some_iff_numeral.2 (hvalue.symm ▸ hn)⟩
  · rintro ⟨n, hn⟩
    exact ⟨n.toNat, ofDecimal?_eq_some_iff_numeral.1 hn, Nat.le_of_lt_succ n.toNat_lt⟩

theorem field_iff {field text : String} :
    Field field text ↔ trim text = field ∧ ',' ∉ text.toList := by
  rw [trim_eq_iff]
  exact ⟨fun h => ⟨⟨h.trimmed, h.padded⟩, h.comma_not_mem⟩, fun h => ⟨h.1.1, h.1.2, h.2⟩⟩

theorem Field.isInfix {field text : String} (h : Field field text) :
    field.toList <:+: text.toList := by
  obtain ⟨before, after, -, -, rfl⟩ := h.padded
  rw [String.toList_append, String.toList_append]
  exact List.infix_append _ _ _

end Text

theorem Heading.ofToken?_eq_none_iff {text : String} :
    ofToken? text = none ↔ ∀ k : Heading, text ≠ k.token := by
  rw [Option.eq_none_iff_forall_ne_some]
  exact forall_congr' fun k => not_congr ofToken?_eq_some_iff

/-- The first field that is not what it should be. -/
theorem Placement.ofFields_eq_error_iff {x y h : String} {e : ParseError} :
    ofFields x y h = .error e ↔
      (¬Text.IsCoordinate x ∧ e = .coordinate x) ∨
      (Text.IsCoordinate x ∧ ¬Text.IsCoordinate y ∧ e = .coordinate y) ∨
      Text.IsCoordinate x ∧ Text.IsCoordinate y ∧ (∀ k : Heading, h ≠ k.token) ∧
        e = .heading h := by
  simp only [Text.isCoordinate_iff, ← Heading.ofToken?_eq_none_iff]
  unfold ofFields
  cases Text.ofDecimal? x with
  | none => simpa using eq_comm
  | some cx =>
    cases Text.ofDecimal? y with
    | none => simpa using eq_comm
    | some cy =>
      cases Heading.ofToken? h with
      | none => simpa using eq_comm
      | some k => simp

namespace Command

/-! ## The form of a text -/

theorem mem_words_iff {line : String} : line ∈ words ↔ ∃ c, ofToken? line = some c := by
  simp only [ofToken?_eq_some_iff]
  constructor
  · intro h
    simp only [words, List.mem_cons, List.not_mem_nil, or_false] at h
    rcases h with rfl | rfl | rfl | rfl | rfl
    · exact ⟨move, by simp, rfl⟩
    · exact ⟨left, by simp, rfl⟩
    · exact ⟨right, by simp, rfl⟩
    · exact ⟨flip, by simp, rfl⟩
    · exact ⟨report, by simp, rfl⟩
  · rintro ⟨c, hc, rfl⟩
    cases c with
    | place p => exact absurd rfl (hc p)
    | _ => decide

theorem ofToken?_eq_none_iff {line : String} : ofToken? line = none ↔ line ∉ words := by
  rw [mem_words_iff, not_exists, Option.eq_none_iff_forall_ne_some]

theorem places_iff {line : String} : Places line ↔ ∃ fields, placeFields? line = some fields := by
  simp only [placeFields?, Option.map_eq_some_iff, List.isPrefixOf?_eq_some_iff_append_eq]
  constructor
  · rintro ⟨rest, hline⟩
    exact ⟨_, rest, hline, rfl⟩
  · rintro ⟨_, rest, hline, -⟩
    exact ⟨rest, hline⟩

theorem placeFields?_eq_none_iff {line : String} : placeFields? line = none ↔ ¬Places line := by
  rw [places_iff, not_exists, Option.eq_none_iff_forall_ne_some]

/-- There is one field more than there are commas in the whole text. -/
theorem length_of_placeFields? {line : String} {fields : List String}
    (h : placeFields? line = some fields) : fields.length = 1 + line.toList.count ',' := by
  obtain ⟨rest, hline, rfl⟩ := Option.map_eq_some_iff.1 h
  rw [List.isPrefixOf?_eq_some_iff_append_eq] at hline
  have hword : "PLACE ".toList.count ',' = 0 := by decide
  rw [List.length_map, Text.length_pieces, String.toList_ofList, ← hline, List.count_append, hword,
    Nat.zero_add]

theorem placeFields?_eq_some_iff_hasFields {line x y h : String} :
    placeFields? line = some [x, y, h] ↔ HasFields line x y h := by
  rw [placeFields?_eq_some_iff]
  constructor
  · rintro ⟨column, row, heading, rfl, ⟨hcolumn, hrow, hheading⟩, hx, hy, hh⟩
    exact .intro (Text.field_iff.2 ⟨hx, hcolumn⟩) (Text.field_iff.2 ⟨hy, hrow⟩)
      (Text.field_iff.2 ⟨hh, hheading⟩)
  · rintro ⟨hx, hy, hh⟩
    exact ⟨_, _, _, rfl, ⟨hx.comma_not_mem, hy.comma_not_mem, hh.comma_not_mem⟩,
      (Text.field_iff.1 hx).1, (Text.field_iff.1 hy).1, (Text.field_iff.1 hh).1⟩

/-! ## The reader and the rules -/

/-- A text with fields breaks the rule that its fields break. -/
theorem breaks_of_ofFields {line x y h : String} {e : ParseError} (hfields : HasFields line x y h)
    (he : Placement.ofFields x y h = .error e) : Breaks line e := by
  rcases Placement.ofFields_eq_error_iff.1 he with ⟨hx, rfl⟩ | ⟨hx, hy, rfl⟩ | ⟨hx, hy, hh, rfl⟩
  · exact .column hfields hx
  · exact .row hfields hx hy
  · exact .heading hfields hx hy hh

theorem breaks_of_parse {line : String} {e : ParseError} (h : parse line = .error e) :
    Breaks line e := by
  unfold parse at h
  split at h
  · cases h
  · rename_i hword
    rw [ofToken?_eq_none_iff] at hword
    split at h
    · rename_i hblank
      cases h
      exact .blank (Text.trim_eq_empty_iff.1 hblank)
    · rename_i hblank
      rw [Text.trim_eq_empty_iff] at hblank
      split at h
      · rename_i hnone
        cases h
        exact .unknown hblank hword (placeFields?_eq_none_iff.1 hnone)
      · rename_i x y heading hf
        cases hp : Placement.ofFields x y heading with
        | ok p => rw [hp] at h; cases h
        | error e' =>
          rw [hp] at h
          cases h
          exact breaks_of_ofFields (placeFields?_eq_some_iff_hasFields.1 hf) hp
      · rename_i fields hthree hf
        cases h
        rw [length_of_placeFields? hf]
        refine .count (places_iff.2 ⟨fields, hf⟩) fun hcount => ?_
        obtain ⟨x, y, heading, rfl⟩ :=
          List.length_eq_three.1 ((length_of_placeFields? hf).trans hcount)
        exact hthree x y heading rfl

theorem parse_of_blank {line : String} (h : Text.AllBlank line.toList) :
    parse line = .error .empty := by
  have hword : ofToken? line = none := by
    rw [ofToken?_eq_none_iff]
    intro hw
    simp only [words, List.mem_cons, List.not_mem_nil, or_false] at hw
    rcases hw with rfl | rfl | rfl | rfl | rfl <;> exact absurd h (by decide)
  simp only [parse, hword, Text.trim_eq_empty_iff.2 h, if_true]

theorem parse_of_unknown {line : String} (hblank : ¬Text.AllBlank line.toList)
    (hword : line ∉ words) (hplaces : ¬Places line) : parse line = .error (.unknown line) := by
  have htrim : Text.trim line ≠ "" := fun h => hblank (Text.trim_eq_empty_iff.1 h)
  simp only [parse, ofToken?_eq_none_iff.2 hword, htrim, if_false,
    placeFields?_eq_none_iff.2 hplaces]

theorem parse_of_count {line : String} (hplaces : Places line)
    (hcount : 1 + line.toList.count ',' ≠ 3) :
    parse line = .error (.fieldCount (1 + line.toList.count ',')) := by
  obtain ⟨fields, hf⟩ := places_iff.1 hplaces
  obtain ⟨hword, htrim⟩ := ne_word_of_placeFields? hf
  rw [← length_of_placeFields? hf] at hcount ⊢
  simp only [parse, hword, htrim, if_false, hf]
  split
  · rename_i hnone
    cases hnone
  · rename_i hthree
    cases hthree
    exact absurd rfl hcount
  · rename_i hfields
    cases hfields
    rfl

theorem parse_of_hasFields {line x y h : String} (hfields : HasFields line x y h) :
    parse line = (Placement.ofFields x y h).map place := by
  have hf := placeFields?_eq_some_iff_hasFields.2 hfields
  obtain ⟨hword, htrim⟩ := ne_word_of_placeFields? hf
  simp only [parse, hword, htrim, if_false, hf]

theorem parse_of_ofFields {line x y h : String} {e : ParseError} (hfields : HasFields line x y h)
    (he : Placement.ofFields x y h = .error e) : parse line = .error e := by
  rw [parse_of_hasFields hfields, he]
  rfl

theorem parse_of_breaks {line : String} {e : ParseError} (h : Breaks line e) :
    parse line = .error e := by
  cases h with
  | blank hblank => exact parse_of_blank hblank
  | unknown hblank hword hplaces => exact parse_of_unknown hblank hword hplaces
  | count hplaces hcount => exact parse_of_count hplaces hcount
  | column hfields hx =>
    exact parse_of_ofFields hfields (Placement.ofFields_eq_error_iff.2 (Or.inl ⟨hx, rfl⟩))
  | row hfields hx hy =>
    exact parse_of_ofFields hfields
      (Placement.ofFields_eq_error_iff.2 (Or.inr (Or.inl ⟨hx, hy, rfl⟩)))
  | heading hfields hx hy hh =>
    exact parse_of_ofFields hfields
      (Placement.ofFields_eq_error_iff.2 (Or.inr (Or.inr ⟨hx, hy, hh, rfl⟩)))

/-- The reader refuses a text exactly for the first rule that it breaks. -/
theorem parse_eq_error_iff_breaks {line : String} {e : ParseError} :
    parse line = .error e ↔ Breaks line e := ⟨breaks_of_parse, parse_of_breaks⟩

/-! ## The text that an error carries -/

/-- The text is a part of the line, without commas and without blanks at its ends. -/
structure Carried (field line : String) : Prop where
  isInfix : field.toList <:+: line.toList
  comma_not_mem : ',' ∉ field.toList
  trimmed : Text.Trimmed field.toList

theorem carried_of_field {field text line : String} (h : Text.Field field text)
    (htext : text.toList <:+: line.toList) : Carried field line where
  isInfix := h.isInfix.trans htext
  comma_not_mem := fun hc => h.comma_not_mem (h.isInfix.subset hc)
  trimmed := h.trimmed

theorem carried_of_hasFields {line x y h : String} (hfields : HasFields line x y h) :
    Carried x line ∧ Carried y line ∧ Carried h line := by
  obtain @⟨x, y, h, column, row, heading, hx, hy, hh⟩ := hfields
  refine ⟨carried_of_field hx ⟨"PLACE ".toList, ("," ++ row ++ "," ++ heading).toList, ?_⟩,
    carried_of_field hy ⟨("PLACE " ++ column ++ ",").toList, ("," ++ heading).toList, ?_⟩,
    carried_of_field hh ⟨("PLACE " ++ column ++ "," ++ row ++ ",").toList, [], ?_⟩⟩ <;>
    simp only [String.toList_append, List.append_assoc, List.append_nil]

theorem carried_of_breaks {line field : String}
    (h : Breaks line (.coordinate field) ∨ Breaks line (.heading field)) : Carried field line := by
  rcases h with h | h
  · cases h with
    | column hfields hx => exact (carried_of_hasFields hfields).1
    | row hfields hx hy => exact (carried_of_hasFields hfields).2.1
  · cases h with
    | heading hfields hx hy hh => exact (carried_of_hasFields hfields).2.2

/-! ## Kinds of errors -/

theorem breaks_coordinate_iff {line field : String} :
    Breaks line (.coordinate field) ↔ ∃ x y h, HasFields line x y h ∧
      ((¬Text.IsCoordinate x ∧ field = x) ∨
        (Text.IsCoordinate x ∧ ¬Text.IsCoordinate y ∧ field = y)) := by
  constructor
  · intro h
    cases h with
    | column hfields hx => exact ⟨_, _, _, hfields, Or.inl ⟨hx, rfl⟩⟩
    | row hfields hx hy => exact ⟨_, _, _, hfields, Or.inr ⟨hx, hy, rfl⟩⟩
  · rintro ⟨x, y, h, hfields, ⟨hx, rfl⟩ | ⟨hx, hy, rfl⟩⟩
    · exact .column hfields hx
    · exact .row hfields hx hy

/-- **Refusals.** A text is empty if it has nothing but blanks. Any other that is no word and does
not begin with `PLACE ` is unknown, and the error carries all of it. One that begins so and has not
two commas has a wrong number of fields. Of the fields, the first that is no coordinate is named,
without the blanks around it, and if both are coordinates, the third if it is no heading. -/
theorem parse_refuses_for_first_broken_rule (line : String) :
    (parse line = .error .empty ↔ Text.AllBlank line.toList) ∧
    (∀ text, parse line = .error (.unknown text) ↔
      text = line ∧ ¬Text.AllBlank line.toList ∧ line ∉ words ∧ ¬Places line) ∧
    (∀ n, parse line = .error (.fieldCount n) ↔
      Places line ∧ n = 1 + line.toList.count ',' ∧ n ≠ 3) ∧
    (∀ field, parse line = .error (.coordinate field) ↔ ∃ x y h, HasFields line x y h ∧
      ((¬Text.IsCoordinate x ∧ field = x) ∨
        (Text.IsCoordinate x ∧ ¬Text.IsCoordinate y ∧ field = y))) ∧
    (∀ field, parse line = .error (.heading field) ↔ ∃ x y, HasFields line x y field ∧
      Text.IsCoordinate x ∧ Text.IsCoordinate y ∧ ∀ k : Heading, field ≠ k.token) ∧
    ∀ field, parse line = .error (.coordinate field) ∨ parse line = .error (.heading field) →
      Carried field line := by
  simp only [parse_eq_error_iff_breaks]
  refine ⟨⟨?_, .blank⟩, fun text => ⟨?_, ?_⟩, fun n => ⟨?_, ?_⟩, fun _ => breaks_coordinate_iff,
    fun field => ⟨?_, ?_⟩, fun _ => carried_of_breaks⟩
  · intro h
    cases h with
    | blank hblank => exact hblank
  · intro h
    cases h with
    | unknown hblank hword hplaces => exact ⟨rfl, hblank, hword, hplaces⟩
  · rintro ⟨rfl, hblank, hword, hplaces⟩
    exact .unknown hblank hword hplaces
  · intro h
    cases h with
    | count hplaces hcount => exact ⟨hplaces, rfl, hcount⟩
  · rintro ⟨hplaces, rfl, hcount⟩
    exact .count hplaces hcount
  · intro h
    cases h with
    | heading hfields hx hy hh => exact ⟨_, _, hfields, hx, hy, hh⟩
  · rintro ⟨x, y, hfields, hx, hy, hh⟩
    exact .heading hfields hx hy hh

/-- Of two coordinates and a heading that are all wrong, the first is named. -/
example : parse "PLACE  +1 ,4294967296,north" = .error (.coordinate "+1") ∧
    parse "PLACE 0000000000007, 4294967296 ,north" = .error (.coordinate "4294967296") ∧
    parse "PLACE 7,7, north " = .error (.heading "north") := by
  decide +kernel

end Command

end Gridbot
