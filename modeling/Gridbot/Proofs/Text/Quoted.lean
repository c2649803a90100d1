import Gridbot.Proofs.Text.Pieces
import Gridbot.Text.Quoted

/-!
# Quoted texts read back

Whatever characters a text has, its quoted form is one line of printable characters, and two texts
never have the same one.

**Reading back.** `readQuoted?` takes the first character off the written form of a text: a character
that stands for itself, one behind a backslash, or the hexadecimal number between braces. No written
form is the beginning of another, so it takes off what was written first and nothing else.

* `readQuoted?_quotedChar_append`: this for every character in front of every rest.
* `quoted_inj`: the quoted form determines the text.
* `printable_quoted`, `Printable.oneLine`: no quoted form breaks the line that shows it.
-/

namespace Gridbot.Text

/-! ## Hexadecimal numbers -/

/-- The value of a hexadecimal digit. -/
def hexDigitValue (c : Char) : Nat := if c.isDigit then c.toNat - 48 else c.toNat - 87

/-- The value of a run of hexadecimal digits. -/
def hexValue (cs : List Char) : Nat := cs.foldl (fun n c => 16 * n + hexDigitValue c) 0

theorem hexDigitValue_digitChar {d : Nat} (hd : d < 16) : hexDigitValue d.digitChar = d := by
  have h : ∀ d : Fin 16, hexDigitValue (Nat.digitChar d) = d := by decide
  exact h ⟨d, hd⟩

theorem hexValue_snoc (cs : List Char) (c : Char) :
    hexValue (cs ++ [c]) = 16 * hexValue cs + hexDigitValue c := by
  simp [hexValue]

/-- A number is the value of its hexadecimal digits. -/
theorem hexValue_toDigits (n : Nat) : hexValue (Nat.toDigits 16 n) = n := by
  induction n using Nat.strongRecOn with
  | ind n ih =>
    rw [Nat.toDigits_eq_if (by decide)]
    split
    · rename_i hn
      rw [← List.nil_append [n.digitChar], hexValue_snoc, hexDigitValue_digitChar hn]
      simp [hexValue]
    · rename_i hn
      have hlast : n % 16 < 16 := Nat.mod_lt n (by decide)
      rw [hexValue_snoc, ih (n / 16) (by omega), hexDigitValue_digitChar hlast]
      omega

theorem exists_digitChar_of_mem_toDigits {n : Nat} {c : Char} (h : c ∈ Nat.toDigits 16 n) :
    ∃ d : Fin 16, c = Nat.digitChar d := by
  induction n using Nat.strongRecOn with
  | ind n ih =>
    rw [Nat.toDigits_eq_if (by decide)] at h
    split at h
    · rename_i hn
      exact ⟨⟨n, hn⟩, List.mem_singleton.1 h⟩
    · rename_i hn
      rcases List.mem_append.1 h with h | h
      · exact ih (n / 16) (by omega) h
      · exact ⟨⟨n % 16, Nat.mod_lt n (by decide)⟩, List.mem_singleton.1 h⟩

theorem brace_not_mem_toDigits (n : Nat) : '\x7d' ∉ Nat.toDigits 16 n := by
  intro h
  obtain ⟨d, hd⟩ := exists_digitChar_of_mem_toDigits h
  exact Nat.digitChar_ne '\x7d' rfl hd.symm

/-! ## Reading back -/

/-- The characters behind the backslash of a short escape, each with the one it is written for. -/
def shortEscapes : List (Char × Char) :=
  [('0', '\x00'), ('t', '\t'), ('n', '\n'), ('r', '\r'), ('"', '"'), ('\\', '\\')]

/-- Takes the first character off the written form of a text. A quote that is not escaped ends the
text. -/
def readQuoted? : List Char → Option (Char × List Char)
  | '\\' :: 'u' :: '\x7b' :: rest =>
    some (Char.ofNat (hexValue (rest.takeWhile (· ≠ '\x7d'))),
      (rest.dropWhile (· ≠ '\x7d')).tail)
  | '\\' :: c :: rest => (shortEscapes.lookup c).map (·, rest)
  | '"' :: _ => none
  | c :: rest => some (c, rest)
  | [] => none

/-- The three ways in which a character is written. -/
theorem quotedChar_cases (c : Char) :
    (∃ x, quotedChar c = ['\\', x] ∧ isPrintable x ∧ x ≠ 'u' ∧ shortEscapes.lookup x = some c) ∨
    (quotedChar c = [c] ∧ isPrintable c ∧ c ≠ '"' ∧ c ≠ '\\') ∨
    quotedChar c = codeEscape c := by
  unfold quotedChar
  split
  · subst_vars
    exact Or.inl ⟨'0', rfl, by decide, by decide, rfl⟩
  split
  · subst_vars
    exact Or.inl ⟨'t', rfl, by decide, by decide, rfl⟩
  split
  · subst_vars
    exact Or.inl ⟨'n', rfl, by decide, by decide, rfl⟩
  split
  · subst_vars
    exact Or.inl ⟨'r', rfl, by decide, by decide, rfl⟩
  split
  · subst_vars
    exact Or.inl ⟨'"', rfl, by decide, by decide, rfl⟩
  rename_i hquote
  split
  · subst_vars
    exact Or.inl ⟨'\\', rfl, by decide, by decide, rfl⟩
  rename_i hbackslash
  split
  · rename_i hshown
    rw [Bool.and_eq_true] at hshown
    exact Or.inr (Or.inl ⟨rfl, hshown.1, hquote, hbackslash⟩)
  · exact Or.inr (Or.inr rfl)

theorem readQuoted?_codeEscape_append (c : Char) (rest : List Char) :
    readQuoted? (codeEscape c ++ rest) = some (c, rest) := by
  have hform : codeEscape c ++ rest =
      '\\' :: 'u' :: '\x7b' :: (Nat.toDigits 16 c.toNat ++ '\x7d' :: rest) := by
    simp [codeEscape]
  have hbrace := brace_not_mem_toDigits c.toNat
  rw [hform]
  simp only [readQuoted?]
  rw [takeWhile_ne_append_cons hbrace, dropWhile_ne_append_cons hbrace, hexValue_toDigits,
    Char.ofNat_toNat, List.tail_cons]

/-- What was written first is read, and the rest is left. -/
theorem readQuoted?_quotedChar_append (c : Char) (rest : List Char) :
    readQuoted? (quotedChar c ++ rest) = some (c, rest) := by
  rcases quotedChar_cases c with ⟨x, hform, -, hu, hx⟩ | ⟨hform, -, hquote, hbackslash⟩ | hform
  · rw [hform, List.cons_append, List.singleton_append]
    simp [readQuoted?, hu, hx]
  · rw [hform, List.singleton_append]
    simp [readQuoted?, hbackslash]
  · rw [hform]
    exact readQuoted?_codeEscape_append c rest

/-- The closing quote parts the characters of a text from what follows. -/
theorem flatMap_quotedChar_append_inj {cs ds xs ys : List Char}
    (h : cs.flatMap quotedChar ++ '"' :: xs = ds.flatMap quotedChar ++ '"' :: ys) :
    cs = ds ∧ xs = ys := by
  -- both sides are read: one that is at its end reads nothing
  have hread := congrArg readQuoted? h
  induction cs generalizing ds with
  | nil =>
    cases ds with
    | nil => exact ⟨rfl, List.cons.inj h |>.2⟩
    | cons d ds =>
      rw [List.flatMap_cons, List.append_assoc, readQuoted?_quotedChar_append] at hread
      cases hread
  | cons c cs ih =>
    rw [List.flatMap_cons, List.append_assoc, readQuoted?_quotedChar_append] at hread
    cases ds with
    | nil => cases hread
    | cons d ds =>
      rw [List.flatMap_cons, List.append_assoc, readQuoted?_quotedChar_append, Option.some.injEq,
        Prod.mk.injEq] at hread
      obtain ⟨rfl, hrest⟩ := hread
      obtain ⟨rfl, hxy⟩ := ih hrest (congrArg readQuoted? hrest)
      exact ⟨rfl, hxy⟩

/-- A quoted text can be told apart from what follows it, and read back. -/
theorem quoted_append_inj {text other x y : String} (h : quoted text ++ x = quoted other ++ y) :
    text = other ∧ x = y := by
  have hchars := congrArg String.toList h
  simp only [String.toList_append, toList_quoted, List.cons_append, List.append_assoc,
    List.cons.injEq, true_and] at hchars
  obtain ⟨htext, hxy⟩ := flatMap_quotedChar_append_inj hchars
  exact ⟨String.toList_inj.1 htext, String.toList_inj.1 hxy⟩

theorem quoted_inj {text other : String} (h : quoted text = quoted other) : text = other :=
  (quoted_append_inj (congrArg (· ++ "") h)).1

/-- A line feed and the escape that stands for it are written differently. -/
example : quoted "\n" = "\"\\n\"" ∧ quoted "\\n" = "\"\\\\n\"" := by decide

/-! ## Lines -/

/-- Every character is shown as itself. -/
def Printable (cs : List Char) : Prop := ∀ c ∈ cs, isPrintable c

instance (cs : List Char) : Decidable (Printable cs) :=
  List.decidableBAll (fun c => isPrintable c) cs

/-- No control character, and no other line break either: whatever shows the text shows it as one
line. -/
def OneLine (text : String) : Prop :=
  ∀ c ∈ text.toList, isControl c = false ∧ c ≠ '\u2028' ∧ c ≠ '\u2029'

theorem Printable.append {cs ds : List Char} (hc : Printable cs) (hd : Printable ds) :
    Printable (cs ++ ds) := by
  intro c h
  rcases List.mem_append.1 h with h | h
  · exact hc c h
  · exact hd c h

theorem Printable.oneLine {text : String} (h : Printable text.toList) : OneLine text := by
  intro c hc
  have hshown := h c hc
  refine ⟨?_, ?_, ?_⟩
  · cases hcontrol : isControl c with
    | false => rfl
    | true =>
      rw [isPrintable_eq_false_of_isControl hcontrol] at hshown
      cases hshown
  · rintro rfl
    exact absurd hshown (by decide +kernel)
  · rintro rfl
    exact absurd hshown (by decide +kernel)

theorem printable_codeEscape (c : Char) : Printable (codeEscape c) := by
  have hdigits : Printable (Nat.toDigits 16 c.toNat) := by
    intro x hx
    obtain ⟨d, rfl⟩ := exists_digitChar_of_mem_toDigits hx
    have hall : ∀ d : Fin 16, isPrintable (Nat.digitChar d) := by decide
    exact hall d
  have hopen : Printable ['\\', 'u', '\x7b'] := by decide
  have hclose : Printable ['\x7d'] := by decide
  exact hopen.append (hdigits.append hclose)

theorem printable_quotedChar (c : Char) : Printable (quotedChar c) := by
  rcases quotedChar_cases c with ⟨x, hform, hx, -⟩ | ⟨hform, hc, -⟩ | hform
  · rw [hform]
    have hbackslash : Printable ['\\'] := by decide
    exact hbackslash.append (by simpa [Printable] using hx)
  · rw [hform]
    simpa [Printable] using hc
  · rw [hform]
    exact printable_codeEscape c

theorem printable_quoted (text : String) : Printable (quoted text).toList := by
  have hquote : Printable ['"'] := by decide
  have hchars : Printable (text.toList.flatMap quotedChar) := by
    intro x hx
    obtain ⟨c, -, hxc⟩ := List.mem_flatMap.1 hx
    exact printable_quotedChar c x hxc
  rw [toList_quoted]
  exact hquote.append (hchars.append hquote)

end Gridbot.Text
