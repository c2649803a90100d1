/-!
# Bytes shown as text

Bytes need not be a text. Shown as one, every character that is well formed in UTF-8 stands for
itself, and U+FFFD for every longest beginning of one that is cut short, or else for a single byte.
-/

namespace Gridbot.Text

/-- A character of which the first bytes were read. -/
structure BegunChar where
  /-- What these bytes say of its number. -/
  value : Nat
  missing : Nat
  /-- The least byte that can be next, and the greatest. -/
  next : UInt8 × UInt8

def replacement : Char := '\ufffd'

/-- A byte where a character begins: what is shown for it at once, and what it begins. -/
def beginChar (b : UInt8) : List Char × Option BegunChar :=
  let begun (lead missing : Nat) (least most : UInt8) : List Char × Option BegunChar :=
    ([], some ⟨b.toNat - lead, missing, (least, most)⟩)
  if b < 0x80 then ([Char.ofNat b.toNat], none)
  else if b < 0xC2 then ([replacement], none)
  else if b < 0xE0 then begun 0xC0 1 0x80 0xBF
  else if b = 0xE0 then begun 0xE0 2 0xA0 0xBF
  else if b = 0xED then begun 0xE0 2 0x80 0x9F
  else if b < 0xF0 then begun 0xE0 2 0x80 0xBF
  else if b = 0xF0 then begun 0xF0 3 0x90 0xBF
  else if b < 0xF4 then begun 0xF0 3 0x80 0xBF
  else if b = 0xF4 then begun 0xF0 3 0x80 0x8F
  else ([replacement], none)

/-- The characters shown for bytes behind the beginning of a character, if there is one. -/
def lossyChars : Option BegunChar → List UInt8 → List Char
  | none, [] => []
  | some _, [] => [replacement]
  | none, b :: rest =>
    let (shown, begun) := beginChar b
    shown ++ lossyChars begun rest
  | some c, b :: rest =>
    if c.next.1 ≤ b ∧ b ≤ c.next.2 then
      let value := 64 * c.value + (b.toNat - 0x80)
      if c.missing ≤ 1 then Char.ofNat value :: lossyChars none rest
      else lossyChars (some ⟨value, c.missing - 1, (0x80, 0xBF)⟩) rest
    else
      let (shown, begun) := beginChar b
      replacement :: shown ++ lossyChars begun rest

/-- The text shown for bytes. -/
def lossy (bytes : List UInt8) : String := String.ofList (lossyChars none bytes)

end Gridbot.Text
