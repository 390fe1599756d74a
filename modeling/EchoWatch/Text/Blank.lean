/-!
# White space

`isBlank` is the class of characters that count as white space around a text a person typed:
the Unicode property `White_Space` together with the four ASCII information separators.
`trim` drops them from both ends and leaves the middle alone.
-/

namespace EchoWatch.Text

/-- The code points of white space, in order. -/
def blanks : List Nat :=
  [
    0x9, 0xA, 0xB, 0xC, 0xD, 0x1C, 0x1D, 0x1E, 0x1F, 0x20, 0x85, 0xA0, 0x1680, 0x2000, 0x2001,
    0x2002, 0x2003, 0x2004, 0x2005, 0x2006, 0x2007, 0x2008, 0x2009, 0x200A, 0x2028, 0x2029,
    0x202F, 0x205F, 0x3000]

/-- White space: the blanks of ASCII and of Unicode. -/
def isBlank (c : Char) : Bool :=
  blanks.contains c.toNat

/-- A text without the white space at its two ends. -/
def trim (cs : List Char) : List Char :=
  ((cs.dropWhile isBlank).reverse.dropWhile isBlank).reverse

/-- A text that neither starts nor ends with a blank is its own trimmed form. -/
theorem trim_eq_self (cs : List Char) (h : ∀ c, cs.head? = some c → isBlank c = false)
    (h' : ∀ c, cs.reverse.head? = some c → isBlank c = false) : trim cs = cs := by
  have drop : ∀ l : List Char, (∀ c, l.head? = some c → isBlank c = false) →
      l.dropWhile isBlank = l := by
    intro l hl
    cases l with
    | nil => rfl
    | cons a r => simp [hl a rfl]
  rw [trim, drop cs h, drop cs.reverse h', List.reverse_reverse]

end EchoWatch.Text
