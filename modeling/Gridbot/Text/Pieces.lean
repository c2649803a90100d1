/-!
# Pieces of a text

A text cut at every occurrence of a separator character. There is one piece more than there are
separators, and the separators are dropped.

* `length_pieces`: the number of pieces.
* `toList_pieces`: the pieces as character lists.
-/

namespace Gridbot.Text

/-- The pieces of a text between the occurrences of a separator. -/
def pieces (separator : Char) (text : String) : List String :=
  (text.toList.splitOn separator).map String.ofList

theorem toList_pieces (separator : Char) (text : String) :
    (pieces separator text).map String.toList = text.toList.splitOn separator := by
  simp [pieces, Function.comp_def]

theorem length_splitOn (separator : Char) (cs : List Char) :
    (cs.splitOn separator).length = 1 + cs.count separator := by
  induction cs with
  | nil => simp
  | cons c cs ih =>
    rw [List.splitOn_cons_eq_if_modifyHead]
    split
    · rename_i h
      have h : c = separator := by simpa using h
      subst h
      simp [ih]
      omega
    · rename_i h
      have h : c ≠ separator := by simpa using h
      simp [ih, List.count_cons_of_ne h]

theorem length_pieces (separator : Char) (text : String) :
    (pieces separator text).length = 1 + text.toList.count separator := by
  simp [pieces, length_splitOn]

end Gridbot.Text
