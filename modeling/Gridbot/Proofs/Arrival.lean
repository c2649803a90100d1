import Gridbot.Arrival
import Gridbot.CommandFile
import Gridbot.Proofs.Text.Blank
import Gridbot.Proofs.Text.Pieces

/-!
# A text as an input stream

A text that arrives as bytes is cut at the byte of a line feed, a command file at the character. No
other character has that byte in its encoding, so both cut at the same places. What differs is what
is dropped at the ends of lines, and for instructions that does not matter.

* `arrivals_toUTF8`: the lines of a text arrive, then its end.
* `cleaned_inputLines`: cleaned of blanks, they are the instructions of the text.
-/

namespace Gridbot

/-- The lines that arrive when a text without backspaces is the input: up to each line feed, less
one carriage return in front of it, and what is left after the last unless that is nothing. -/
def inputLines (text : String) : List String :=
  let pieces := text.toList.splitOn '\n'
  let rest := pieces.getLast?.getD []
  pieces.dropLast.map (fun cs => String.ofList (dropCarriageReturn cs))
    ++ (if rest = [] then [] else [String.ofList rest])

/-- Lines without the blanks at their ends, the blank ones left out. -/
def cleaned (lines : List String) : List String := (lines.map Text.trim).filter (· ≠ "")

/-- The bytes of a list of characters. -/
def encode (cs : List Char) : List UInt8 := cs.flatMap String.utf8EncodeChar

/-! ## Bytes and characters -/

theorem toList_toUTF8 (text : String) : text.toUTF8.data.toList = encode text.toList := by
  rw [String.toUTF8_eq_toByteArray, ← String.utf8Encode_toList]
  simp [List.utf8Encode, encode]

theorem fromUTF8?_toUTF8 (text : String) : String.fromUTF8? text.toUTF8 = some text := by
  rw [String.toUTF8_eq_toByteArray, String.fromUTF8?, dif_pos text.isValidUTF8]
  rfl

theorem toUTF8_of_fromUTF8? {bytes : ByteArray} {text : String}
    (h : String.fromUTF8? bytes = some text) : text.toUTF8 = bytes := by
  unfold String.fromUTF8? at h
  split at h
  · rw [Option.some.injEq] at h
    subst h
    rfl
  · cases h

theorem fromUTF8?_encode (cs : List Char) :
    String.fromUTF8? ⟨(encode cs).toArray⟩ = some (String.ofList cs) := by
  have h : (⟨(encode cs).toArray⟩ : ByteArray) = (String.ofList cs).toUTF8 := by
    rw [ByteArray.ext_iff]
    apply Array.toList_inj.1
    rw [toList_toUTF8, String.toList_ofList]
  rw [h, fromUTF8?_toUTF8]

theorem lineFeed_ne_ofNat {n : Nat} (h : n % 256 ≠ 10) : (0x0A : UInt8) ≠ UInt8.ofNat n := by
  intro he
  have := congrArg UInt8.toNat he
  exact h (by simpa using this.symm)

/-- The byte of a line feed belongs to no other character. -/
theorem lineFeed_not_mem_utf8EncodeChar {c : Char} (h : c ≠ '\n') :
    (0x0A : UInt8) ∉ String.utf8EncodeChar c := by
  have hc : c.val.toNat ≠ 10 := fun he => h (Char.toNat_inj.1 he)
  -- a character takes one byte, its code, or several that are at least 128
  fun_cases String.utf8EncodeChar c <;>
    simp only [List.mem_cons, List.not_mem_nil, or_false, not_or]
  · exact lineFeed_ne_ofNat (by omega)
  · exact ⟨lineFeed_ne_ofNat (by omega), lineFeed_ne_ofNat (by omega)⟩
  · exact ⟨lineFeed_ne_ofNat (by omega), lineFeed_ne_ofNat (by omega), lineFeed_ne_ofNat (by omega)⟩
  · exact ⟨lineFeed_ne_ofNat (by omega), lineFeed_ne_ofNat (by omega), lineFeed_ne_ofNat (by omega),
      lineFeed_ne_ofNat (by omega)⟩

/-- Cutting the bytes of a text at line feeds is cutting the text. -/
theorem splitOn_encode (cs : List Char) :
    (encode cs).splitOn 0x0A = (cs.splitOn '\n').map encode := by
  induction cs with
  | nil => simp [encode]
  | cons c cs ih =>
    rw [List.splitOn_cons_eq_if_modifyHead]
    by_cases hc : c = '\n'
    · subst hc
      have hcons : encode ('\n' :: cs) = 0x0A :: encode cs := rfl
      rw [hcons, List.splitOn_cons_eq_if_modifyHead, ih]
      rfl
    · have hcons : encode (c :: cs) = String.utf8EncodeChar c ++ encode cs := rfl
      rw [hcons, Text.splitOn_append_of_not_mem (lineFeed_not_mem_utf8EncodeChar hc), ih]
      simp only [beq_iff_eq, hc, if_false]
      cases cs.splitOn '\n' <;> rfl

theorem encode_eq_nil_iff {cs : List Char} : encode cs = [] ↔ cs = [] := by
  cases cs with
  | nil => simp [encode]
  | cons c cs => simp [encode, String.utf8EncodeChar_ne_nil]

/-! ## Arrivals -/

theorem backspace_not_mem_dropCarriageReturn {cs : List Char} (h : '\x08' ∉ cs) :
    '\x08' ∉ dropCarriageReturn cs := by
  unfold dropCarriageReturn
  split
  · exact fun hc => h (List.dropLast_subset cs hc)
  · exact h

/-- A line without backspaces arrives as it is, less a carriage return in front of its line feed. -/
theorem ofBytes_encode (terminated : Bool) {cs : List Char} (h : '\x08' ∉ cs) :
    Arrival.ofBytes terminated (encode cs) =
      .line (String.ofList (if terminated then dropCarriageReturn cs else cs)) := by
  unfold Arrival.ofBytes
  rw [fromUTF8?_encode]
  dsimp only
  rw [String.toList_ofList, Text.eraseBackspaces_eq_self]
  split
  · exact backspace_not_mem_dropCarriageReturn h
  · exact h

theorem arrivals_toUTF8 {text : String} (h : '\x08' ∉ text.toList) :
    arrivals text.toUTF8 = (inputLines text).map .line ++ [.endOfInput] := by
  have hpieces : ∀ piece ∈ text.toList.splitOn '\n', '\x08' ∉ piece :=
    fun piece hp hc => h (Text.mem_of_mem_splitOn hp hc).1
  have hfull : ((text.toList.splitOn '\n').dropLast.map encode).map (Arrival.ofBytes true) =
      ((text.toList.splitOn '\n').dropLast.map fun cs => String.ofList (dropCarriageReturn cs)).map
        .line := by
    rw [List.map_map, List.map_map]
    refine List.map_congr_left fun piece hp => ?_
    exact ofBytes_encode true (hpieces piece (List.dropLast_subset _ hp))
  have hlast : ∀ rest, (text.toList.splitOn '\n').getLast? = some rest → '\x08' ∉ rest :=
    fun rest hr => hpieces rest (List.mem_of_getLast? hr)
  unfold arrivals inputLines
  dsimp only
  rw [toList_toUTF8, splitOn_encode, ← List.map_dropLast, hfull, List.getLast?_map, List.map_append,
    List.append_assoc]
  congr 2
  cases hr : (text.toList.splitOn '\n').getLast? with
  | none => rfl
  | some rest =>
    simp only [Option.map_some, Option.getD_some, encode_eq_nil_iff]
    split
    · rfl
    · rw [ofBytes_encode false (hlast rest hr)]
      rfl

/-! ## Instructions -/

/-- A carriage return at the end of a line is blank. -/
theorem trim_dropCarriageReturn (cs : List Char) :
    Text.trim (String.ofList (dropCarriageReturn cs)) = Text.trim (String.ofList cs) := by
  unfold dropCarriageReturn
  split
  · rename_i hlast
    have hcs : cs = cs.dropLast ++ ['\r'] := by
      obtain ⟨front, rfl⟩ := List.getLast?_eq_some_iff.1 hlast
      simp
    have hblank : Text.AllBlank ['\r'] := by decide
    have htrim := Text.trimChars_append_blank cs.dropLast hblank
    rw [← hcs] at htrim
    simp only [Text.trim, String.toList_ofList, htrim]
  · rfl

/-- Trimmed, every line that arrives is a piece of the text between line feeds. -/
theorem exists_piece_of_mem_inputLines {text line : String} (h : line ∈ inputLines text) :
    ∃ piece ∈ Text.pieces '\n' text, Text.trim line = Text.trim piece := by
  unfold inputLines at h
  dsimp only at h
  rcases List.mem_append.1 h with h | h
  · obtain ⟨cs, hcs, rfl⟩ := List.mem_map.1 h
    exact ⟨String.ofList cs, List.mem_map_of_mem (List.dropLast_subset _ hcs),
      trim_dropCarriageReturn cs⟩
  · split at h
    · cases h
    · rename_i hrest
      rw [List.mem_singleton] at h
      subst h
      cases hr : (text.toList.splitOn '\n').getLast? with
      | none => simp [hr] at hrest
      | some rest => exact ⟨_, List.mem_map_of_mem (List.mem_of_getLast? hr), rfl⟩

theorem cleaned_append (xs ys : List String) : cleaned (xs ++ ys) = cleaned xs ++ cleaned ys := by
  simp [cleaned]

theorem cleaned_inputLines (text : String) : cleaned (inputLines text) = instructions text := by
  obtain ⟨front, last, hpieces⟩ : ∃ front last, text.toList.splitOn '\n' = front ++ [last] := by
    have hne := List.splitOn_ne_nil '\n' text.toList
    exact ⟨_, _, (List.dropLast_concat_getLast hne).symm⟩
  have hinstructions : instructions text = cleaned ((front ++ [last]).map String.ofList) := by
    rw [← hpieces]
    rfl
  have hfront : cleaned (front.map fun cs => String.ofList (dropCarriageReturn cs)) =
      cleaned (front.map String.ofList) := by
    simp only [cleaned, List.map_map, Function.comp_def, trim_dropCarriageReturn]
  have hlast : cleaned (if last = [] then [] else [String.ofList last]) =
      cleaned [String.ofList last] := by
    split
    · rename_i h
      subst h
      rfl
    · rfl
  rw [hinstructions, List.map_append, cleaned_append, List.map_singleton, ← hfront, ← hlast,
    ← cleaned_append]
  simp [inputLines, hpieces]

end Gridbot
