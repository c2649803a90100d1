import Gridbot.Text.Decimal
import Mathlib.Data.List.Induction

/-!
# Numerals as a grammar

A numeral is a non-empty run of the digits `0` to `9`, of any length and with any number of zeros in
front. `Numeral` gives it with its value, digit by digit.

* `ofDecimal?_eq_some_iff_numeral`: `ofDecimal?` reads exactly the numerals whose value fits in 32
  bits, and reads the value.
-/

namespace Gridbot.Text

/-- The characters are a non-empty run of digits, and the number is its decimal value. -/
inductive Numeral : List Char → Nat → Prop
  | digit {d : Nat} (hd : d < 10) : Numeral [d.digitChar] d
  /-- A further digit moves all before it one place to the left. -/
  | snoc {cs : List Char} {n d : Nat} (hcs : Numeral cs n) (hd : d < 10) :
      Numeral (cs ++ [d.digitChar]) (10 * n + d)

theorem ofDigitChars_snoc (cs : List Char) {d : Nat} (hd : d < 10) :
    Nat.ofDigitChars 10 (cs ++ [d.digitChar]) 0 = 10 * Nat.ofDigitChars 10 cs 0 + d := by
  rw [Nat.ofDigitChars_append, Nat.ofDigitChars_cons_digitChar_of_lt_ten hd, Nat.ofDigitChars_nil]

theorem exists_digitChar {c : Char} (h : c.isDigit) : ∃ d, d < 10 ∧ c = d.digitChar := by
  have hc : 48 ≤ c.toNat ∧ c.toNat ≤ 57 := Char.isDigit_iff_toNat.1 h
  have hd : c.toNat - 48 < 10 := by omega
  refine ⟨c.toNat - 48, hd, ?_⟩
  rw [← Char.toNat_inj, Nat.toNat_digitChar_of_lt_ten hd]
  omega

theorem isNumeral_snoc (cs : List Char) (c : Char) :
    isNumeral (cs ++ [c]) ↔ (cs = [] ∨ isNumeral cs) ∧ c.isDigit := by
  cases cs <;> simp [isNumeral, and_assoc]

namespace Numeral

theorem isNumeral {cs : List Char} {n : Nat} (h : Numeral cs n) : isNumeral cs := by
  induction h with
  | digit hd => exact (isNumeral_snoc [] _).2 ⟨Or.inl rfl, by simp [hd]⟩
  | snoc _ hd ih => exact (isNumeral_snoc _ _).2 ⟨Or.inr ih, by simp [hd]⟩

theorem value {cs : List Char} {n : Nat} (h : Numeral cs n) : Nat.ofDigitChars 10 cs 0 = n := by
  induction h with
  | digit hd => exact (ofDigitChars_snoc [] hd).trans (Nat.zero_add _)
  | snoc _ hd ih => rw [ofDigitChars_snoc _ hd, ih]

theorem of_isNumeral {cs : List Char} (h : Text.isNumeral cs) :
    Numeral cs (Nat.ofDigitChars 10 cs 0) := by
  induction cs using List.reverseRecOn with
  | nil => cases h
  | append_singleton cs c ih =>
    obtain ⟨hcs, hc⟩ := (isNumeral_snoc cs c).1 h
    obtain ⟨d, hd, rfl⟩ := exists_digitChar hc
    rw [ofDigitChars_snoc cs hd]
    rcases hcs with rfl | hcs
    · rw [Nat.ofDigitChars_nil, Nat.mul_zero, Nat.zero_add]
      exact .digit hd
    · exact .snoc (ih hcs) hd

/-- A numeral holds digits only. -/
theorem isDigit_of_mem {cs : List Char} {n : Nat} (h : Numeral cs n) {c : Char} (hc : c ∈ cs) :
    c.isDigit := by
  have hcs := h.isNumeral
  simp only [Text.isNumeral, Bool.and_eq_true, List.all_eq_true] at hcs
  exact hcs.2 c hc

theorem length_pos {cs : List Char} {n : Nat} (h : Numeral cs n) : 0 < cs.length := by
  cases h <;> simp

/-- The numeral without zeros in front is shorter than every other of its value. -/
theorem toDigits_eq_or_length_lt {cs : List Char} {n : Nat} (h : Numeral cs n) :
    Nat.toDigits 10 n = cs ∨ (Nat.toDigits 10 n).length < cs.length := by
  induction h with
  | digit hd => exact Or.inl (Nat.toDigits_of_lt_base hd)
  | @snoc cs n d hcs hd ih =>
    have hlast := Nat.toDigits_of_lt_base hd
    rcases Nat.eq_zero_or_pos n with rfl | hn
    · -- all that stands in front of the last digit is zeros
      right
      have := hcs.length_pos
      simp only [Nat.mul_zero, Nat.zero_add, hlast, List.length_append, List.length_singleton]
      omega
    · have hsnoc := Nat.toDigits_append_toDigits (b := 10) (by decide) hn hd
      rw [hlast] at hsnoc
      rcases ih with rfl | hlt
      · exact Or.inl hsnoc.symm
      · right
        rw [← hsnoc, List.length_append, List.length_append]
        exact Nat.add_lt_add_right hlt _

end Numeral

/-- Reading numbers is reading numerals whose value fits. -/
theorem ofDecimal?_eq_some_iff_numeral {text : String} {n : UInt32} :
    ofDecimal? text = some n ↔ Numeral text.toList n.toNat := by
  rw [ofDecimal?_eq_some_iff]
  constructor
  · rintro ⟨h, hv⟩
    exact hv ▸ Numeral.of_isNumeral h
  · exact fun h => ⟨h.isNumeral, h.value⟩

theorem numeral_decimal (n : UInt32) : Numeral (decimal n).toList n.toNat :=
  ofDecimal?_eq_some_iff_numeral.1 (ofDecimal?_decimal n)

end Gridbot.Text
