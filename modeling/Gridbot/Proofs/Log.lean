import Gridbot.Log
import Gridbot.Proofs.Command.Grammar

/-!
# Reading log messages

A log is read as text, and two kinds of its messages carry the state of the robot: the report
`2,2,EAST` and the announcement `MOVE: robot now at S`. Neither can be mistaken for another message,
whatever line a message quotes.

**Marks.** The first small letter or colon of a message settles its kind: a report has none, an
announcement has its colon first, and every other message a letter.

* `announced?_eq_some_iff`, `reported?_eq_some_iff`: the state that an event announces and the
  placement that it reports are those that its message shows.
-/

namespace Gridbot

namespace LogEvent

/-- The state that an event announces, if it announces one. -/
def announced? : LogEvent → Option RobotState
  | applied _ s => some s
  | _ => none

/-- The placement that an event reports, if it is a report. -/
def reported? : LogEvent → Option Placement
  | reported p => some p
  | _ => none

end LogEvent

/-! ## Marks -/

namespace Text

/-- The characters that tell messages apart. -/
def isMark (c : Char) : Bool := c.isLower || c == ':'

/-- Neither a small letter nor a colon. -/
def Unmarked (cs : List Char) : Prop := ∀ c ∈ cs, isMark c = false

instance (cs : List Char) : Decidable (Unmarked cs) :=
  List.decidableBAll (fun c => isMark c = false) cs

theorem Unmarked.append {cs ds : List Char} (hc : Unmarked cs) (hd : Unmarked ds) :
    Unmarked (cs ++ ds) := by
  intro c h
  rcases List.mem_append.1 h with h | h
  · exact hc c h
  · exact hd c h

/-- The first mark of a text. -/
def firstMark (text : String) : Option Char := text.toList.find? isMark

theorem firstMark_of_unmarked {text : String} (h : Unmarked text.toList) : firstMark text = none :=
  List.find?_eq_none.2 fun c hc => by simp [h c hc]

theorem firstMark_append (x y : String) : firstMark (x ++ y) = (firstMark x).or (firstMark y) := by
  rw [firstMark, String.toList_append, List.find?_append, firstMark, firstMark]

theorem firstMark_append_of_some {x : String} {c : Char} (h : firstMark x = some c) (y : String) :
    firstMark (x ++ y) = some c := by
  rw [firstMark_append, h, Option.some_or]

theorem firstMark_append_of_unmarked {x : String} (h : Unmarked x.toList) (y : String) :
    firstMark (x ++ y) = firstMark y := by
  rw [firstMark_append, firstMark_of_unmarked h, Option.none_or]

theorem Unmarked.colon_not_mem {cs : List Char} (h : Unmarked cs) : ':' ∉ cs :=
  fun hc => absurd (h ':' hc) (by decide)

theorem isMark_eq_false_of_isDigit {c : Char} (h : c.isDigit) : isMark c = false := by
  have hc : 48 ≤ c.toNat ∧ c.toNat ≤ 57 := Char.isDigit_iff_toNat.1 h
  have hcolon : c ≠ ':' := by
    rintro rfl
    exact absurd hc (by decide)
  have hlower : c.isLower = false := by
    have hbelow : ¬('a'.val ≤ c.val) := by
      rw [UInt32.le_iff_toNat_le, Char.toNat_val, Char.toNat_val]
      have ha : 'a'.toNat = 97 := rfl
      omega
    have hrange : c.isLower = (decide ('a'.val ≤ c.val) && decide (c.val ≤ 'z'.val)) := rfl
    rw [hrange, decide_eq_false hbelow, Bool.false_and]
  simp [isMark, hlower, hcolon]

theorem unmarked_decimal (n : UInt32) : Unmarked (decimal n).toList :=
  fun _ hc => isMark_eq_false_of_isDigit ((numeral_decimal n).isDigit_of_mem hc)

/-- A separator that begins with `a` parts texts without `a` from what follows. -/
theorem append_separator_inj {a : Char} {x y separator u v : String}
    (ha : separator.toList.head? = some a) (hx : a ∉ x.toList) (hy : a ∉ y.toList)
    (h : x ++ (separator ++ u) = y ++ (separator ++ v)) : x = y ∧ u = v := by
  obtain ⟨rest, hsep⟩ := List.head?_eq_some_iff.1 ha
  have hchars := congrArg String.toList h
  simp only [String.toList_append, hsep, List.cons_append] at hchars
  obtain ⟨hxy, huv⟩ := first_separator_inj hx hy hchars
  rw [List.append_cancel_left_eq] at huv
  exact ⟨String.toList_inj.1 hxy, String.toList_inj.1 huv⟩

theorem decimal_inj {m n : UInt32} (h : decimal m = decimal n) : m = n := by
  have hread := ofDecimal?_decimal m
  rw [h, ofDecimal?_decimal] at hread
  exact (Option.some.inj hread).symm

end Text

theorem Heading.unmarked_token (h : Heading) : Text.Unmarked h.token.toList := by
  cases h <;> decide

theorem Heading.name_inj {h k : Heading} (heq : h.name = k.name) : h = k := by
  cases h <;> cases k <;> simp_all [name]

theorem Placement.unmarked_report (p : Placement) : Text.Unmarked p.report.toList := by
  have hcomma : Text.Unmarked ",".toList := by decide
  simp only [Placement.report, String.toList_append]
  exact ((((Text.unmarked_decimal _).append hcomma).append
    (Text.unmarked_decimal _)).append hcomma).append p.heading.unmarked_token

namespace Command

theorem unmarked_text (c : Command) : Text.Unmarked c.text.toList := by
  cases c with
  | place p =>
    have hword : Text.Unmarked "PLACE ".toList := by decide
    rw [text, String.toList_append]
    exact hword.append p.unmarked_report
  | _ => decide

theorem text_inj {c d : Command} (h : c.text = d.text) : c = d := by
  have hread := parse_text c
  rw [h, parse_text d] at hread
  exact (Except.ok.inj hread).symm

end Command

/-! ## Descriptions -/

theorem Placement.report_inj {p q : Placement} (h : p.report = q.report) : p = q := by
  have htext : (Command.place p).text = (Command.place q).text := by
    simp only [Command.text, h]
  exact Command.place.inj (Command.text_inj htext)

theorem Placement.describe_inj {p q : Placement} (h : p.describe = q.describe) : p = q := by
  obtain ⟨⟨x, y⟩, k⟩ := p
  obtain ⟨⟨x', y'⟩, k'⟩ := q
  have hdigits : ∀ n : UInt32, ',' ∉ (Text.decimal n).toList :=
    fun n => (Text.numeral_decimal n).comma_not_mem
  unfold describe at h
  simp only [String.append_assoc, String.append_right_inj] at h
  obtain ⟨hx, hrest⟩ := Text.append_separator_inj rfl (hdigits x) (hdigits x') h
  obtain ⟨hy, hlast⟩ := Text.append_separator_inj rfl (hdigits y) (hdigits y') hrest
  rw [String.append_left_inj] at hlast
  rw [Text.decimal_inj hx, Text.decimal_inj hy, Heading.name_inj hlast]

theorem RobotState.describe_inj {s t : RobotState} (h : s.describe = t.describe) : s = t := by
  have hword : ∀ p : Placement, "Unplaced" ≠ "Placed(" ++ p.describe ++ ")" := by
    intro p he
    have hfirst := congrArg (fun text => text.toList.head?) he
    rw [String.append_assoc, String.toList_append] at hfirst
    cases hfirst
  cases s with
  | unplaced =>
    cases t with
    | unplaced => rfl
    | placed q => exact absurd h (hword q)
  | placed p =>
    cases t with
    | unplaced => exact absurd h.symm (hword p)
    | placed q =>
      rw [describe, describe, String.append_left_inj, String.append_right_inj] at h
      rw [Placement.describe_inj h]

/-! ## Messages -/

namespace LogEvent

theorem firstMark_announcement (c : Command) (text : String) :
    Text.firstMark (c.text ++ ": robot now at " ++ text) = some ':' := by
  have hcolon : Text.firstMark ": robot now at " = some ':' := by decide
  rw [String.append_assoc, Text.firstMark_append_of_unmarked c.unmarked_text,
    Text.firstMark_append_of_some hcolon]

/-- The first mark of any other message is a small letter. -/
theorem firstMark_message {e : LogEvent} (ha : e.announced? = none) (hr : e.reported? = none) :
    ∃ c, c.isLower ∧ Text.firstMark e.message = some c := by
  cases e with
  | started => exact ⟨'g', rfl, by decide⟩
  | gridInitialized length width =>
    have h : Text.firstMark "Grid initialized with length: " = some 'r' := by decide
    exact ⟨'r', rfl, Text.firstMark_append_of_some (Text.firstMark_append_of_some
      (Text.firstMark_append_of_some h _) _) _⟩
  | fileLoaded count path =>
    have h : Text.firstMark "Successfully parsed " = some 'u' := by decide
    exact ⟨'u', rfl, Text.firstMark_append_of_some (Text.firstMark_append_of_some
      (Text.firstMark_append_of_some h _) _) _⟩
  | executing line =>
    have h : Text.firstMark "Executing command: " = some 'x' := by decide
    exact ⟨'x', rfl, Text.firstMark_append_of_some h line⟩
  | invalid line error =>
    have h : Text.firstMark "Invalid command " = some 'n' := by decide
    exact ⟨'n', rfl, Text.firstMark_append_of_some (Text.firstMark_append_of_some
      (Text.firstMark_append_of_some h _) _) _⟩
  | ignored c =>
    have h : Text.firstMark "Robot is not placed on the grid, ignoring " = some 'o' := by decide
    exact ⟨'o', rfl, Text.firstMark_append_of_some h c.text⟩
  | rejected c r =>
    have h : Text.firstMark " rejected: " = some 'r' := by decide
    have hword : Text.firstMark (c.text ++ " rejected: ") = some 'r' := by
      rw [Text.firstMark_append_of_unmarked c.unmarked_text, h]
    exact ⟨'r', rfl, Text.firstMark_append_of_some hword r.message⟩
  | interrupted => exact ⟨'n', rfl, by decide⟩
  | endOfInput => exact ⟨'o', rfl, by decide⟩
  | applied c s => cases ha
  | reported p => cases hr

theorem eq_reported {e : LogEvent} {p : Placement} (h : e.reported? = some p) : e = reported p := by
  cases e with
  | reported q =>
    cases h
    rfl
  | _ => cases h

theorem eq_applied {e : LogEvent} {s : RobotState} (h : e.announced? = some s) :
    ∃ c, e = applied c s := by
  cases e with
  | applied c t =>
    cases h
    exact ⟨c, rfl⟩
  | _ => cases h

/-- **Announcements.** An event announces the state that its message shows. -/
theorem announced?_eq_some_iff {e : LogEvent} {s : RobotState} :
    e.announced? = some s ↔ ∃ c : Command, e.message = c.text ++ ": robot now at " ++ s.describe := by
  constructor
  · intro h
    obtain ⟨c, rfl⟩ := eq_applied h
    exact ⟨c, rfl⟩
  · rintro ⟨c, h⟩
    have hmark := firstMark_announcement c s.describe
    rw [← h] at hmark
    cases ha : e.announced? with
    | none =>
      cases hr : e.reported? with
      | none =>
        obtain ⟨x, hlower, hx⟩ := firstMark_message ha hr
        rw [hmark] at hx
        cases hx
        exact absurd hlower (by decide)
      | some p =>
        obtain rfl := eq_reported hr
        have hnone : Text.firstMark (reported p).message = none :=
          Text.firstMark_of_unmarked p.unmarked_report
        rw [hnone] at hmark
        cases hmark
    | some t =>
      obtain ⟨d, rfl⟩ := eq_applied ha
      have htexts : d.text ++ (": robot now at " ++ t.describe) =
          c.text ++ (": robot now at " ++ s.describe) := by
        rw [← String.append_assoc, ← String.append_assoc]
        exact h
      obtain ⟨-, hts⟩ := Text.append_separator_inj rfl d.unmarked_text.colon_not_mem
        c.unmarked_text.colon_not_mem htexts
      rw [RobotState.describe_inj hts]

/-- **Reports.** An event reports the placement that its message is the report of. -/
theorem reported?_eq_some_iff {e : LogEvent} {p : Placement} :
    e.reported? = some p ↔ e.message = p.report := by
  constructor
  · intro h
    obtain rfl := eq_reported h
    rfl
  · intro h
    have hmark := Text.firstMark_of_unmarked p.unmarked_report
    rw [← h] at hmark
    cases hr : e.reported? with
    | none =>
      cases ha : e.announced? with
      | none =>
        obtain ⟨x, -, hx⟩ := firstMark_message ha hr
        rw [hmark] at hx
        cases hx
      | some s =>
        obtain ⟨c, hc⟩ := announced?_eq_some_iff.1 ha
        rw [hc, firstMark_announcement] at hmark
        cases hmark
    | some q =>
      obtain rfl := eq_reported hr
      rw [Placement.report_inj h]

end LogEvent

end Gridbot
