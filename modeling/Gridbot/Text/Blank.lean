/-!
# Blank characters

The characters with the Unicode property White_Space, and texts without the blanks at their ends.

* `trim` drops the longest blank run at either end and nothing else.
* Controls such as U+001C and format characters such as U+200B and U+FEFF are not blank.
-/

namespace Gridbot.Text

/-- White_Space: tab to carriage return, space, and the separators beyond ASCII. -/
def isBlank (c : Char) : Bool :=
  let n := c.toNat
  (0x09 ≤ n && n ≤ 0x0D) || n == 0x20 || n == 0x85 || n == 0xA0 || n == 0x1680
    || (0x2000 ≤ n && n ≤ 0x200A) || n == 0x2028 || n == 0x2029 || n == 0x202F || n == 0x205F
    || n == 0x3000

/-- Removes the blanks at both ends of a character list. -/
def trimChars (cs : List Char) : List Char :=
  ((cs.dropWhile isBlank).reverse.dropWhile isBlank).reverse

/-- Removes the blanks at both ends of a text. -/
def trim (text : String) : String := String.ofList (trimChars text.toList)

@[simp] theorem toList_trim (text : String) : (trim text).toList = trimChars text.toList :=
  String.toList_ofList

end Gridbot.Text
