import Gridbot.Heading

/-!
# Cells

A cell is a pair of 32-bit coordinates. Cells are ordered by `x`, then by `y`, and `ahead` is the
neighbour in a given direction.

* `ahead` is defined exactly when the neighbour's coordinates still fit in 32 bits.
* `before_irrefl`, `before_trans`, `before_trichotomous`: the order is strict and total.
-/

namespace Gridbot

/-- The cell in column `x` and row `y`. -/
structure Cell where
  x : UInt32
  y : UInt32
  deriving DecidableEq, Repr

namespace Cell

theorem ext_iff_toNat {a b : Cell} : a = b ↔ a.x.toNat = b.x.toNat ∧ a.y.toNat = b.y.toNat := by
  cases a; cases b
  simp [UInt32.toNat_inj]

/-! ## Order -/

/-- Column first, then row. -/
def before (a b : Cell) : Bool := a.x < b.x || (a.x == b.x && a.y < b.y)

theorem before_iff {a b : Cell} :
    a.before b ↔ a.x.toNat < b.x.toNat ∨ (a.x.toNat = b.x.toNat ∧ a.y.toNat < b.y.toNat) := by
  simp [before, UInt32.lt_iff_toNat_lt, UInt32.toNat_inj]

theorem before_irrefl (a : Cell) : ¬a.before a := by
  simp [before_iff]

theorem before_trans {a b c : Cell} (hab : a.before b) (hbc : b.before c) : a.before c := by
  rw [before_iff] at *
  omega

theorem before_trichotomous {a b : Cell} (hab : ¬a.before b) (hne : a ≠ b) : b.before a := by
  rw [before_iff] at *
  rw [Ne, ext_iff_toNat] at hne
  omega

/-! ## Neighbours -/

/-- The next cell in the direction `h`, if its coordinates exist. -/
def ahead (c : Cell) : Heading → Option Cell
  | .north => if c.y.toNat + 1 < UInt32.size then some ⟨c.x, c.y + 1⟩ else none
  | .east => if c.x.toNat + 1 < UInt32.size then some ⟨c.x + 1, c.y⟩ else none
  | .south => if 0 < c.y.toNat then some ⟨c.x, c.y - 1⟩ else none
  | .west => if 0 < c.x.toNat then some ⟨c.x - 1, c.y⟩ else none

end Cell

end Gridbot
