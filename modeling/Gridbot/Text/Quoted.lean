import Gridbot.Text.GraphemeExtend
import Gridbot.Text.Printable

/-!
# Quoted text

The form in which messages show a text that somebody offered: between double quotes, with escapes
for the quote, the backslash and every character that would not be seen as itself: the unprintable
ones, and the marks that would merge with the character before them.

* `toList_quoted`: the quotes stand around the escaped characters, one after the other.
-/

namespace Gridbot.Text

/-- A character by its code point: backslash, `u`, and the lower-case hexadecimal number in
braces. -/
def codeEscape (c : Char) : List Char :=
  '\\' :: 'u' :: '\x7b' :: (Nat.toDigits 16 c.toNat ++ ['\x7d'])

/-- How one character is written between the quotes. -/
def quotedChar (c : Char) : List Char :=
  if c = '\x00' then ['\\', '0']
  else if c = '\t' then ['\\', 't']
  else if c = '\n' then ['\\', 'n']
  else if c = '\r' then ['\\', 'r']
  else if c = '"' then ['\\', '"']
  else if c = '\\' then ['\\', '\\']
  else if isPrintable c && !isCombining c then [c]
  else codeEscape c

/-- The quoted form of a text. -/
def quoted (text : String) : String :=
  String.ofList ('"' :: (text.toList.flatMap quotedChar ++ ['"']))

theorem toList_quoted (text : String) :
    (quoted text).toList = '"' :: (text.toList.flatMap quotedChar ++ ['"']) :=
  String.toList_ofList

end Gridbot.Text
