import Gridbot.Text.Pieces

/-!
# What the pieces of a text are

The pieces of a text are the only list that gives the text when separators are put between its
members, and that has no separator inside a member.

* `splitOn_eq_iff`: this for the pieces of any list; `pieces_eq_three_iff`: for three of a text.
-/

namespace Gridbot.Text

/-! ## The first separator -/

section
variable {α : Type} [DecidableEq α] {separator : α} {cs : List α}

theorem decide_ne_of_mem (h : separator ∉ cs) : ∀ c ∈ cs, decide (c ≠ separator) = true := by
  intro c hc
  apply decide_eq_true
  rintro rfl
  exact h hc

theorem takeWhile_ne_append_cons (h : separator ∉ cs) (ds : List α) :
    (cs ++ separator :: ds).takeWhile (· ≠ separator) = cs := by
  rw [List.takeWhile_append_of_pos (decide_ne_of_mem h)]
  simp

theorem dropWhile_ne_append_cons (h : separator ∉ cs) (ds : List α) :
    (cs ++ separator :: ds).dropWhile (· ≠ separator) = separator :: ds := by
  rw [List.dropWhile_append_of_pos (decide_ne_of_mem h)]
  simp

/-- What stands in front of the first separator and what stands behind it. -/
theorem first_separator_inj {ds xs ys : List α} (hc : separator ∉ cs) (hd : separator ∉ ds)
    (h : cs ++ separator :: xs = ds ++ separator :: ys) : cs = ds ∧ xs = ys := by
  have hcd : cs = ds := by
    rw [← takeWhile_ne_append_cons hc xs, h, takeWhile_ne_append_cons hd]
  rw [hcd, List.append_cancel_left_eq, List.cons.injEq] at h
  exact ⟨hcd, h.2⟩

/-- What stands in front of the last separator and what stands behind it. -/
theorem last_separator_inj {ds xs ys : List α} (hx : separator ∉ xs) (hy : separator ∉ ys)
    (h : cs ++ separator :: xs = ds ++ separator :: ys) : cs = ds ∧ xs = ys := by
  have hreverse := congrArg List.reverse h
  simp only [List.reverse_append, List.reverse_cons, List.append_assoc, List.singleton_append]
    at hreverse
  obtain ⟨hxy, hcd⟩ := first_separator_inj (by simpa using hx) (by simpa using hy) hreverse
  exact ⟨List.reverse_inj.1 hcd, List.reverse_inj.1 hxy⟩

end

/-! ## Cutting a list -/

section
variable {α : Type} [BEq α] [LawfulBEq α] {separator : α}

/-- A piece is made of members of the list that are no separators. -/
theorem mem_of_mem_splitOn {cs piece : List α} (h : piece ∈ cs.splitOn separator) {c : α}
    (hc : c ∈ piece) : c ∈ cs ∧ c ≠ separator := by
  induction cs generalizing piece with
  | nil =>
    rw [List.splitOn_nil, List.mem_singleton] at h
    subst h
    cases hc
  | cons d cs ih =>
    rw [List.splitOn_cons_eq_if_modifyHead] at h
    split at h
    · rcases List.mem_cons.1 h with rfl | h
      · cases hc
      · exact ⟨List.mem_cons_of_mem d (ih h hc).1, (ih h hc).2⟩
    · -- the first piece of the rest grows by a member that is no separator
      rename_i hd
      cases hs : cs.splitOn separator with
      | nil => exact absurd hs (List.splitOn_ne_nil _ _)
      | cons first rest =>
        rw [hs] at h ih
        rcases List.mem_cons.1 h with rfl | h
        · rcases List.mem_cons.1 hc with rfl | hc
          · exact ⟨List.mem_cons_self, fun he => hd (beq_iff_eq.2 he)⟩
          · have := ih List.mem_cons_self hc
            exact ⟨List.mem_cons_of_mem d this.1, this.2⟩
        · have := ih (List.mem_cons_of_mem _ h) hc
          exact ⟨List.mem_cons_of_mem d this.1, this.2⟩

theorem splitOn_append_of_not_mem {cs : List α} (h : separator ∉ cs) (ds : List α) :
    (cs ++ ds).splitOn separator = (ds.splitOn separator).modifyHead (cs ++ ·) := by
  induction cs with
  | nil => cases hd : ds.splitOn separator <;> simp [hd]
  | cons c cs ih =>
    have hc : (c == separator) = false := beq_eq_false_iff_ne.2 fun he => h (by simp [he])
    rw [List.cons_append, List.splitOn_cons_eq_if_modifyHead, hc,
      ih fun hm => h (List.mem_cons_of_mem c hm)]
    cases ds.splitOn separator <;> rfl

theorem splitOn_eq_iff {cs : List α} {parts : List (List α)} (hne : parts ≠ []) :
    cs.splitOn separator = parts ↔
      [separator].intercalate parts = cs ∧ ∀ part ∈ parts, separator ∉ part := by
  constructor
  · rintro rfl
    exact ⟨List.intercalate_splitOn separator, fun _ hp hc => (mem_of_mem_splitOn hp hc).2 rfl⟩
  · rintro ⟨rfl, h⟩
    exact List.splitOn_intercalate separator h hne

end

/-! ## Pieces -/

theorem pieces_eq_iff {separator : Char} {text : String} {parts : List String} :
    pieces separator text = parts ↔ text.toList.splitOn separator = parts.map String.toList := by
  rw [← toList_pieces]
  exact (List.map_inj_right fun _ _ => String.toList_inj.1).symm

theorem pieces_eq_three_iff {separator : Char} {text x y z : String} :
    pieces separator text = [x, y, z] ↔
      text.toList = x.toList ++ separator :: (y.toList ++ separator :: z.toList) ∧
        separator ∉ x.toList ∧ separator ∉ y.toList ∧ separator ∉ z.toList := by
  rw [pieces_eq_iff, splitOn_eq_iff (by simp)]
  simp [List.intercalate, eq_comm]

end Gridbot.Text
