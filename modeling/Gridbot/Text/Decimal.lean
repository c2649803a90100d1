/-!
# Decimal numerals

Unsigned 32-bit numbers in decimal: written without sign or leading zero, read from any non-empty
run of the digits `0` to `9` whose value fits.

* `ofDecimal?_decimal`: what is written reads back.
* `ofDecimal?_eq_some_iff`: exactly which texts are read, and to what.
-/

namespace Gridbot.Text

/-- The decimal numeral of a number. -/
def decimal (n : UInt32) : String := toString n.toNat

/-- Whether a character list is a non-empty run of the digits `0` to `9`. -/
def isNumeral (cs : List Char) : Bool := !cs.isEmpty && cs.all Char.isDigit

/-- The value of a run of digits if it is below 2^32, and 2^32 otherwise, however long the run. -/
def cappedValue (cs : List Char) : Nat :=
  cs.foldl (fun n c => min (10 * n + (c.toNat - '0'.toNat)) UInt32.size) 0

/-- The number a numeral stands for, if it fits in 32 bits. Leading zeros are fine, a sign is not.
-/
def ofDecimal? (text : String) : Option UInt32 :=
  let cs := text.toList
  if isNumeral cs then
    let n := cappedValue cs
    if n < UInt32.size then some (UInt32.ofNat n) else none
  else none

/-! ## Values -/

/-- Capping at every digit caps the value: once the bound is reached, no digit leads below it. -/
theorem cappedValue_eq (cs : List Char) :
    cappedValue cs = min (Nat.ofDigitChars 10 cs 0) UInt32.size := by
  have h : ∀ (cs : List Char) (m n : Nat), m = min n UInt32.size →
      cs.foldl (fun n c => min (10 * n + (c.toNat - '0'.toNat)) UInt32.size) m
        = min (cs.foldl (fun n c => 10 * n + (c.toNat - '0'.toNat)) n) UInt32.size := by
    intro cs
    induction cs with
    | nil => exact fun m n h => h
    | cons c cs ih =>
      intro m n hmn
      refine ih _ _ ?_
      dsimp only
      omega
  rw [cappedValue, Nat.ofDigitChars]
  exact h cs 0 0 (by simp)

theorem toList_decimal (n : UInt32) : (decimal n).toList = Nat.toDigits 10 n.toNat := by
  simp [decimal]

theorem isNumeral_toDigits (n : Nat) : isNumeral (Nat.toDigits 10 n) := by
  simp only [isNumeral, Bool.and_eq_true, Bool.not_eq_true', List.isEmpty_eq_false_iff,
    List.all_eq_true]
  exact ⟨Nat.toDigits_ne_nil, fun c hc => Nat.isDigit_of_mem_toDigits (by decide) (by decide) hc⟩

theorem ofDecimal?_eq_some_iff {text : String} {n : UInt32} :
    ofDecimal? text = some n ↔
      isNumeral text.toList ∧ Nat.ofDigitChars 10 text.toList 0 = n.toNat := by
  have hn : n.toNat < UInt32.size := n.toNat_lt
  simp only [ofDecimal?, cappedValue_eq]
  split
  · rename_i h
    split
    · rename_i hlt
      simp only [Option.some.injEq, h, true_and]
      rw [← UInt32.toNat_inj, UInt32.toNat_ofNat_of_lt' hlt]
      omega
    · rename_i hlt
      simp only [reduceCtorEq, h, true_and, false_iff]
      omega
  · rename_i h
    simp [h]

@[simp] theorem ofDecimal?_decimal (n : UInt32) : ofDecimal? (decimal n) = some n := by
  rw [ofDecimal?_eq_some_iff, toList_decimal]
  exact ⟨isNumeral_toDigits _, Nat.ofDigitChars_ten_toDigits⟩

end Gridbot.Text
