import Gridbot.Text.Blank

/-!
# Trimmed texts

A text is trimmed if neither its first nor its last character is blank. `trim` leaves such texts
alone and makes one of every text, so that trimming twice is trimming once (`trim_trim`).

* `trim_eq_iff`: `trim` finds the one trimmed text that a text is with blanks around it.
-/

namespace Gridbot.Text

/-- Neither end is blank. -/
def Trimmed (cs : List Char) : Prop :=
  (∀ c, cs.head? = some c → isBlank c = false) ∧ (∀ c, cs.getLast? = some c → isBlank c = false)

theorem dropWhile_isBlank_eq_self {cs : List Char}
    (h : ∀ c, cs.head? = some c → isBlank c = false) : cs.dropWhile isBlank = cs := by
  cases cs with
  | nil => rfl
  | cons c cs => exact List.dropWhile_cons_of_neg (by simp [h c rfl])

theorem head?_dropWhile_isBlank {cs : List Char} {c : Char}
    (h : (cs.dropWhile isBlank).head? = some c) : isBlank c = false := by
  have := List.head?_dropWhile_not isBlank cs
  rw [h] at this
  simpa using this

theorem trimChars_eq_self {cs : List Char} (h : Trimmed cs) : trimChars cs = cs := by
  unfold trimChars
  rw [dropWhile_isBlank_eq_self h.1, dropWhile_isBlank_eq_self, List.reverse_reverse]
  simpa using h.2

theorem trimmed_trimChars (cs : List Char) : Trimmed (trimChars cs) := by
  unfold trimChars
  generalize hf : cs.dropWhile isBlank = front
  refine ⟨fun c hc => ?_, fun c hc => ?_⟩
  · -- what is dropped at the end leaves the first character in place
    obtain ⟨dropped, hd⟩ : (front.reverse.dropWhile isBlank).reverse <+: front := by
      have := List.reverse_prefix.2 (List.dropWhile_suffix isBlank (l := front.reverse))
      rwa [List.reverse_reverse] at this
    have hfront : front.head? = some c := by
      rw [← hd, List.head?_append, hc]
      rfl
    rw [← hf] at hfront
    exact head?_dropWhile_isBlank hfront
  · rw [List.getLast?_reverse] at hc
    exact head?_dropWhile_isBlank hc

@[simp] theorem trim_trim (text : String) : trim (trim text) = trim text := by
  unfold trim
  rw [String.toList_ofList, trimChars_eq_self (trimmed_trimChars _)]

/-! ## Blanks around a text -/

/-- Nothing but blanks. -/
def AllBlank (cs : List Char) : Prop := ∀ c ∈ cs, isBlank c

instance (cs : List Char) : Decidable (AllBlank cs) :=
  List.decidableBAll (fun c => isBlank c) cs

/-- `text` is `inner` with blanks around it, or with none. -/
def Padded (inner text : String) : Prop :=
  ∃ before after : String, AllBlank before.toList ∧ AllBlank after.toList ∧
    text = before ++ inner ++ after

theorem AllBlank.append {cs ds : List Char} (hc : AllBlank cs) (hd : AllBlank ds) :
    AllBlank (cs ++ ds) := by
  intro c h
  rcases List.mem_append.1 h with h | h
  · exact hc c h
  · exact hd c h

theorem AllBlank.reverse {cs : List Char} (h : AllBlank cs) : AllBlank cs.reverse :=
  fun c hc => h c (List.mem_reverse.1 hc)

theorem allBlank_takeWhile (cs : List Char) : AllBlank (cs.takeWhile isBlank) :=
  List.all_eq_true.1 List.all_takeWhile

theorem AllBlank.dropWhile {cs : List Char} (h : AllBlank cs) : cs.dropWhile isBlank = [] := by
  have hcs : (cs ++ []).dropWhile isBlank = [].dropWhile isBlank := List.dropWhile_append_of_pos h
  rwa [List.append_nil] at hcs

theorem Padded.refl (text : String) : Padded text text :=
  ⟨"", "", by simp [AllBlank], by simp [AllBlank], by simp⟩

theorem trimChars_blank_append {before : List Char} (h : AllBlank before) (cs : List Char) :
    trimChars (before ++ cs) = trimChars cs := by
  unfold trimChars
  rw [List.dropWhile_append_of_pos h]

theorem trimChars_append_blank (cs : List Char) {after : List Char} (h : AllBlank after) :
    trimChars (cs ++ after) = trimChars cs := by
  unfold trimChars
  rw [List.dropWhile_append]
  split
  · rename_i hcs
    rw [h.dropWhile, List.isEmpty_iff.1 hcs]
  · rw [List.reverse_append, List.dropWhile_append_of_pos]
    exact h.reverse

theorem trim_of_padded {inner text : String} (h : Padded inner text) : trim text = trim inner := by
  obtain ⟨before, after, hb, ha, rfl⟩ := h
  unfold trim
  rw [String.toList_append, String.toList_append, trimChars_append_blank _ ha,
    trimChars_blank_append hb]

/-- What `trim` removes is blank. -/
theorem padded_trim (text : String) : Padded (trim text) text := by
  obtain ⟨front, hfront⟩ : ∃ front, text.toList.dropWhile isBlank = front := ⟨_, rfl⟩
  have hstart := List.takeWhile_append_dropWhile (p := isBlank) (l := text.toList)
  have hend := List.takeWhile_append_dropWhile (p := isBlank) (l := front.reverse)
  rw [hfront] at hstart
  refine ⟨.ofList (text.toList.takeWhile isBlank),
    .ofList (front.reverse.takeWhile isBlank).reverse, ?_, ?_, ?_⟩
  · rw [String.toList_ofList]
    exact allBlank_takeWhile _
  · rw [String.toList_ofList]
    exact (allBlank_takeWhile _).reverse
  · rw [← String.toList_inj, String.toList_append, String.toList_append, String.toList_ofList,
      String.toList_ofList, toList_trim, trimChars, hfront, List.append_assoc,
      ← List.reverse_append, hend, List.reverse_reverse, hstart]

theorem trim_eq_iff {text inner : String} :
    trim text = inner ↔ Trimmed inner.toList ∧ Padded inner text := by
  constructor
  · rintro rfl
    rw [toList_trim]
    exact ⟨trimmed_trimChars _, padded_trim text⟩
  · rintro ⟨ht, hp⟩
    rw [trim_of_padded hp, trim, trimChars_eq_self ht, String.ofList_toList]

theorem trim_eq_empty_iff {text : String} : trim text = "" ↔ AllBlank text.toList := by
  rw [trim_eq_iff]
  constructor
  · rintro ⟨-, before, after, hb, ha, rfl⟩
    simpa using hb.append ha
  · exact fun h => ⟨⟨by simp, by simp⟩, text, "", h, by simp [AllBlank], by simp⟩

end Gridbot.Text
