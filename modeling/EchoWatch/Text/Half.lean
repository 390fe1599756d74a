/-!
# Halves of pairs

Escapes can write one half of a pair of UTF-16 units, which is no character. So that a text can
hold it nevertheless, a half is kept as the private character sixteen planes above its code point.
`ofCode` is the character of any code point, and `code` reads it back.

There are not enough characters for all code points, halves included. It is taken for granted that
no text holds the private characters from U+10D800 to U+10DFFF, whose places the halves take.
-/

namespace EchoWatch.Text

/-- How far above its code point a half is kept. -/
def halfShift : Nat := 0x100000

/-- A character that is kept for a half. -/
def isHalf (c : Char) : Bool :=
  0xD800 + halfShift ≤ c.toNat && c.toNat < 0xE000 + halfShift

/-- The character of a code point; what is no code point counts as zero. -/
def ofCode (n : Nat) : Char :=
  if 0xD800 ≤ n ∧ n < 0xE000 then Char.ofNat (n + halfShift) else Char.ofNat n

/-- The code point of a character. -/
def code (c : Char) : Nat :=
  if isHalf c then c.toNat - halfShift else c.toNat

/-- Whether a text holds halves. -/
def hasHalf (s : String) : Bool :=
  s.toList.any isHalf

theorem toNat_ofNat {n : Nat} (h : n.isValidChar) : (Char.ofNat n).toNat = n := by
  rw [Char.ofNat, dif_pos h]
  rfl

end EchoWatch.Text
