import Gridbot.Proofs.Log
import Gridbot.Proofs.Text.Quoted
import Gridbot.Settings

/-!
# Messages that identify errors

Errors are shown as messages, and some quote a text that anybody may have offered. Still a message
belongs to one error only: the kinds of errors begin with different words, a text is quoted so that
it reads back, and the coordinates of a target stand in front of a comma and of a space, which they
do not have.

* `ParseError.message_inj`, `ConfigError.message_inj`, `Rejection.message_inj`: this for each kind of
  error.
* `messages_identify_errors`: all of them, and that no text that is quoted breaks a line.
-/

namespace Gridbot

namespace Text

/-- Texts that begin with the same words have the same character at each place of these. -/
theorem mark_eq_of_append_eq {x y u v : String} {i : Nat} {a b : Char}
    (hx : x.toList[i]? = some a) (hy : y.toList[i]? = some b) (h : x ++ u = y ++ v) : a = b := by
  have hmark : ∀ {x : String} {a : Char}, x.toList[i]? = some a → ∀ u : String,
      (x ++ u).toList[i]? = some a := by
    intro x a hx u
    obtain ⟨hi, -⟩ := List.getElem?_eq_some_iff.1 hx
    rw [String.toList_append, List.getElem?_append_left hi, hx]
  have ha := hmark hx u
  rw [h, hmark hy v] at ha
  exact (Option.some.inj ha).symm

/-- A text that is quoted behind the same words is the same text. -/
theorem append_quoted_inj {words text other : String}
    (h : words ++ quoted text = words ++ quoted other) : text = other :=
  quoted_inj ((String.append_right_inj words).1 h)

theorem toList_toString (n : Nat) : (toString n).toList = Nat.toDigits 10 n := by
  rw [Nat.toString_eq_ofList_toDigits, String.toList_ofList]

theorem toString_inj {m n : Nat} (h : toString m = toString n) : m = n := by
  have hdigits := congrArg String.toList h
  rw [toList_toString, toList_toString] at hdigits
  rw [← Nat.ofDigitChars_ten_toDigits (n := m), hdigits, Nat.ofDigitChars_ten_toDigits]

theorem printable_toString (n : Nat) : Printable (toString n).toList := by
  intro c hc
  rw [toList_toString] at hc
  have hdigit := Nat.isDigit_of_mem_toDigits (by decide) (by decide) hc
  have hc : 48 ≤ c.toNat ∧ c.toNat ≤ 57 := Char.isDigit_iff_toNat.1 hdigit
  rw [isPrintable, if_pos (by omega)]
  simp only [Bool.and_eq_true, decide_eq_true_eq]
  omega

end Text

/-! ## Parse errors -/

namespace ParseError

/-- The words with which the message of a parse error begins. -/
def opening : ParseError → String
  | empty => "empty instruction"
  | unknown _ => "unknown instruction: "
  | fieldCount _ => "PLACE expects 3 comma separated fields, got "
  | coordinate _ => "invalid coordinate: "
  | heading _ => "invalid heading: "

/-- What the message says behind these words. -/
def detail : ParseError → String
  | empty => ""
  | unknown line => Text.quoted line
  | fieldCount count => toString count
  | coordinate field => Text.quoted field
  | heading field => Text.quoted field

/-- The ninth character of the message, which tells the kinds of parse errors apart. -/
def mark : ParseError → Char
  | empty => 's'
  | unknown _ => 'i'
  | fieldCount _ => 'p'
  | coordinate _ => 'c'
  | heading _ => 'h'

theorem message_eq (e : ParseError) : e.message = e.opening ++ e.detail := by
  cases e <;> rfl

theorem getElem?_opening (e : ParseError) : e.opening.toList[8]? = some e.mark := by
  cases e <;> (dsimp only [opening, mark]; rfl)

theorem message_inj {e f : ParseError} (h : e.message = f.message) : e = f := by
  rw [message_eq, message_eq] at h
  have hmark := Text.mark_eq_of_append_eq e.getElem?_opening f.getElem?_opening h
  cases e with
  | empty =>
    cases f with
    | empty => rfl
    | _ => cases hmark
  | unknown line =>
    cases f with
    | unknown other =>
      rw [Text.append_quoted_inj h]
    | _ => cases hmark
  | fieldCount m =>
    cases f with
    | fieldCount n =>
      have hcount : toString m = toString n := (String.append_right_inj _).1 h
      rw [Text.toString_inj hcount]
    | _ => cases hmark
  | coordinate field =>
    cases f with
    | coordinate other =>
      rw [Text.append_quoted_inj h]
    | _ => cases hmark
  | heading field =>
    cases f with
    | heading other =>
      rw [Text.append_quoted_inj h]
    | _ => cases hmark

theorem printable_message (e : ParseError) : Text.Printable e.message.toList := by
  have hopening : Text.Printable e.opening.toList := by
    cases e <;> (dsimp only [opening]; decide)
  have hdetail : Text.Printable e.detail.toList := by
    cases e with
    | empty => decide
    | fieldCount count => exact Text.printable_toString count
    | _ => exact Text.printable_quoted _
  rw [message_eq, String.toList_append]
  exact hopening.append hdetail

end ParseError

/-! ## Configuration errors -/

namespace ConfigError

/-- The words with which the message of a configuration error begins. -/
def opening : ConfigError → String
  | boardSize _ => "board size must be in the format 'length,width', got "
  | obstacle _ => "obstacle must be in the format 'x,y', got "

/-- The text that was no value. -/
def text : ConfigError → String
  | boardSize text => text
  | obstacle text => text

/-- The first character of the message, which tells the kinds of configuration errors apart. -/
def mark : ConfigError → Char
  | boardSize _ => 'b'
  | obstacle _ => 'o'

theorem message_eq (e : ConfigError) : e.message = e.opening ++ Text.quoted e.text := by
  cases e <;> rfl

theorem getElem?_opening (e : ConfigError) : e.opening.toList[0]? = some e.mark := by
  cases e <;> (dsimp only [opening, mark]; rfl)

theorem message_inj {e f : ConfigError} (h : e.message = f.message) : e = f := by
  rw [message_eq, message_eq] at h
  have hmark := Text.mark_eq_of_append_eq e.getElem?_opening f.getElem?_opening h
  cases e with
  | boardSize text =>
    cases f with
    | boardSize other =>
      have htext : text = other := Text.append_quoted_inj h
      rw [htext]
    | obstacle other => cases hmark
  | obstacle text =>
    cases f with
    | boardSize other => cases hmark
    | obstacle other =>
      have htext : text = other := Text.append_quoted_inj h
      rw [htext]

theorem printable_message (e : ConfigError) : Text.Printable e.message.toList := by
  have hopening : Text.Printable e.opening.toList := by
    cases e <;> (dsimp only [opening]; decide)
  rw [message_eq, String.toList_append]
  exact hopening.append (Text.printable_quoted _)

end ConfigError

/-! ## Rejections -/

namespace Rejection

/-- Nothing but digits and the minus sign stands in a coordinate. -/
theorem not_mem_coordinate {c : Char} (hdigit : c.isDigit = false) (hminus : c ≠ '-')
    (x : Option UInt32) : c ∉ (coordinate x).toList := by
  intro hc
  cases x with
  | none =>
    have hchars : c = '-' ∨ c = '1' := by simpa [coordinate] using hc
    rcases hchars with rfl | rfl
    · exact hminus rfl
    · exact absurd hdigit (by decide)
  | some n =>
    rw [(Text.numeral_decimal n).isDigit_of_mem hc] at hdigit
    cases hdigit

/-- No numeral is `-1`. -/
theorem coordinate_inj {x y : Option UInt32} (h : coordinate x = coordinate y) : x = y := by
  have hminus : ∀ n : UInt32, "-1" ≠ Text.decimal n := by
    intro n hn
    have hdigit := (Text.numeral_decimal n).isDigit_of_mem (c := '-') (by rw [← hn]; decide)
    exact absurd hdigit (by decide)
  cases x with
  | none =>
    cases y with
    | none => rfl
    | some n => exact absurd h (hminus n)
  | some m =>
    cases y with
    | none => exact absurd h.symm (hminus m)
    | some n => rw [Text.decimal_inj h]

/-- What a rejection says of a target, if it has one. -/
def complaint? : Rejection → Option ((Option UInt32 × Option UInt32) × String)
  | notPlaced => none
  | outOfBounds x y => some ((x, y), "outside the grid")
  | obstacle c => some ((some c.x, some c.y), "blocked by an obstacle")

theorem complaint?_inj {r s : Rejection} (h : r.complaint? = s.complaint?) : r = s := by
  cases r with
  | notPlaced =>
    cases s with
    | notPlaced => rfl
    | _ => cases h
  | outOfBounds x y =>
    cases s with
    | outOfBounds x' y' =>
      cases h
      rfl
    | notPlaced => cases h
    | obstacle d => simp [complaint?] at h
  | obstacle c =>
    cases s with
    | obstacle d =>
      obtain ⟨x, y⟩ := c
      obtain ⟨x', y'⟩ := d
      cases h
      rfl
    | notPlaced => cases h
    | outOfBounds x y => simp [complaint?] at h

theorem message_of_complaint {r : Rejection} {x y : Option UInt32} {words : String}
    (h : r.complaint? = some ((x, y), words)) :
    r.message = coordinate x ++ "," ++ coordinate y ++ (" is " ++ words) := by
  cases r with
  | notPlaced => cases h
  | outOfBounds x y =>
    cases h
    rfl
  | obstacle c =>
    cases h
    rfl

/-- A message has a comma exactly if it speaks of a target. -/
theorem comma_mem_message_iff {r : Rejection} :
    ',' ∈ r.message.toList ↔ r.complaint?.isSome := by
  cases hr : r.complaint? with
  | none =>
    have hnone : r = notPlaced := complaint?_inj hr
    rw [hnone]
    decide
  | some complaint =>
    rw [message_of_complaint hr]
    simp

/-- The target of a message, and what the message says of it. -/
theorem target_inj {x y x' y' : Option UInt32} {words words' : String}
    (h : coordinate x ++ "," ++ coordinate y ++ (" is " ++ words) =
      coordinate x' ++ "," ++ coordinate y' ++ (" is " ++ words')) :
    x = x' ∧ y = y' ∧ words = words' := by
  have hcomma := @not_mem_coordinate ',' (by decide) (by decide)
  have hspace := @not_mem_coordinate ' ' (by decide) (by decide)
  simp only [String.append_assoc] at h
  obtain ⟨hx, hrest⟩ := Text.append_separator_inj rfl (hcomma x) (hcomma x') h
  obtain ⟨hy, hwords⟩ := Text.append_separator_inj rfl (hspace y) (hspace y') hrest
  exact ⟨coordinate_inj hx, coordinate_inj hy, hwords⟩

theorem message_inj {r s : Rejection} (h : r.message = s.message) : r = s := by
  have hcomma : r.complaint?.isSome ↔ s.complaint?.isSome := by
    rw [← comma_mem_message_iff, ← comma_mem_message_iff, h]
  apply complaint?_inj
  cases hr : r.complaint? with
  | none =>
    cases hs : s.complaint? with
    | none => rfl
    | some complaint => simp [hr, hs] at hcomma
  | some complaint =>
    cases hs : s.complaint? with
    | none => simp [hr, hs] at hcomma
    | some other =>
      obtain ⟨⟨x, y⟩, words⟩ := complaint
      obtain ⟨⟨x', y'⟩, words'⟩ := other
      rw [message_of_complaint hr, message_of_complaint hs] at h
      obtain ⟨rfl, rfl, rfl⟩ := target_inj h
      rfl

end Rejection

/-! ## All messages -/

namespace LogEvent

/-- The message about a line that is no instruction. -/
theorem message_invalid (line : String) (e : ParseError) :
    (invalid line e).message = "Invalid command " ++ (Text.quoted line ++ (": " ++ e.message)) := by
  rw [← String.append_assoc, ← String.append_assoc]
  rfl

theorem invalid_inj {line other : String} {e f : ParseError}
    (h : (invalid line e).message = (invalid other f).message) : line = other ∧ e = f := by
  rw [message_invalid, message_invalid, String.append_right_inj] at h
  obtain ⟨hline, herror⟩ := Text.quoted_append_inj h
  rw [String.append_right_inj] at herror
  exact ⟨hline, ParseError.message_inj herror⟩

theorem printable_invalid (line : String) (e : ParseError) :
    Text.Printable (invalid line e).message.toList := by
  have hopening : Text.Printable "Invalid command ".toList := by decide
  have hcolon : Text.Printable ": ".toList := by decide
  simp only [message_invalid, String.toList_append]
  exact hopening.append ((Text.printable_quoted line).append (hcolon.append e.printable_message))

end LogEvent

/-- **Messages identify errors.** No two parse errors have the same message, whatever texts or
counts they carry; neither have two configuration errors, nor two rejections. Whatever text was
offered, the message of a parse error or a configuration error is one line. So is what the log says
of a line that is no instruction, which tells that line and its error. -/
theorem messages_identify_errors :
    Function.Injective ParseError.message ∧
    Function.Injective ConfigError.message ∧
    Function.Injective Rejection.message ∧
    (∀ e : ParseError, Text.OneLine e.message) ∧
    (∀ e : ConfigError, Text.OneLine e.message) ∧
    (Function.Injective fun refused : String × ParseError =>
      (LogEvent.invalid refused.1 refused.2).message) ∧
    ∀ line e, Text.OneLine (LogEvent.invalid line e).message := by
  refine ⟨fun _ _ => ParseError.message_inj, fun _ _ => ConfigError.message_inj,
    fun _ _ => Rejection.message_inj, fun e => e.printable_message.oneLine,
    fun e => e.printable_message.oneLine, ?_,
    fun line e => (LogEvent.printable_invalid line e).oneLine⟩
  rintro ⟨line, e⟩ ⟨other, f⟩ h
  obtain ⟨rfl, rfl⟩ := LogEvent.invalid_inj h
  rfl

end Gridbot
