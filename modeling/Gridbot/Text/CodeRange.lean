/-!
# Ranges of code points

Character properties are kept as arrays of closed code point ranges in increasing order, and
looked up by halving the array.
-/

namespace Gridbot.Text

/-- Closed ranges of code points, in increasing order and disjoint. -/
abbrev CodeRanges := Array (Nat × Nat)

namespace CodeRanges

/-- Whether `n` lies in one of the ranges from index `low` up to, not including, `high`. -/
def search (ranges : CodeRanges) (n low high : Nat) : Bool :=
  if low < high then
    let middle := (low + high) / 2
    match ranges[middle]? with
    | none => false
    | some (first, last) =>
      if n < first then search ranges n low middle
      else if last < n then search ranges n (middle + 1) high
      else true
  else false
termination_by high - low

/-- Whether a character's code point lies in one of the ranges. -/
def has (ranges : CodeRanges) (c : Char) : Bool := ranges.search c.toNat 0 ranges.size

end CodeRanges

end Gridbot.Text
