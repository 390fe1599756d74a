/-!
# Reading positions

A cursor stands in a YAML text and knows what is still to be read, its line and its column. Past
the end it sees the character zero, which no text may contain. The classes of characters by which
tokens end are defined here as well.
-/

namespace EchoWatch.Yaml

/-! ### Classes of characters -/

/-- A line break. -/
def isBreak (c : Char) : Bool :=
  c = '\n' || c = '\r' || c = '\u0085' || c = '\u2028' || c = '\u2029'

/-- The end of the text. -/
def isEnd (c : Char) : Bool :=
  c = '\x00'

/-- A line ends here. -/
def endsLine (c : Char) : Bool :=
  isEnd c || isBreak c

/-- A space, or the end of a line. -/
def endsWord (c : Char) : Bool :=
  c = ' ' || endsLine c

/-- A space, a tab, or the end of a line. -/
def isGap (c : Char) : Bool :=
  c = '\t' || endsWord c

/-- A character of names: ASCII letters, digits, the hyphen and the underscore. -/
def isNameChar (c : Char) : Bool :=
  c.isAlphanum || c = '-' || c = '_'

/-- A character that may stand in a YAML text. -/
def isAllowed (c : Char) : Bool :=
  let n := c.toNat
  n = 0x09 || n = 0x0A || n = 0x0D || (0x20 ≤ n && n ≤ 0x7E) || n = 0x85
    || (0xA0 ≤ n && n ≤ 0xD7FF) || (0xE000 ≤ n && n ≤ 0xFFFD) || 0x10000 ≤ n

/-! ### Cursors -/

structure Cursor where
  rest : List Char
  index : Nat
  line : Nat
  column : Nat
  deriving Repr

namespace Cursor

/-- The position at the start of a text; a byte order mark there is passed over. -/
def start (cs : List Char) : Cursor :=
  match cs with
  | '\ufeff' :: r => ⟨r, 1, 0, 0⟩
  | _ => ⟨cs, 0, 0, 0⟩

/-- The character some way ahead. -/
def peek (c : Cursor) (ahead : Nat := 0) : Char :=
  (c.rest[ahead]?).getD '\x00'

/-- The position after one character. A carriage return before a line feed is not yet a break. -/
def forward (c : Cursor) : Cursor :=
  match c.rest with
  | [] => c
  | ch :: r =>
    if isBreak ch ∧ ¬(ch = '\r' ∧ r.head? = some '\n') then ⟨r, c.index + 1, c.line + 1, 0⟩
    else if ch = '\ufeff' then ⟨r, c.index + 1, c.line, c.column⟩
    else ⟨r, c.index + 1, c.line, c.column + 1⟩

/-- The position after a number of characters. -/
def advance (c : Cursor) : Nat → Cursor
  | 0 => c
  | n + 1 => c.forward.advance n

/-- The characters of a class that follow, and the position after them. -/
def span (p : Char → Bool) (c : Cursor) : List Char × Cursor :=
  let taken := c.rest.takeWhile p
  (taken, c.advance taken.length)

/-- The position after the characters of a class. -/
def skip (p : Char → Bool) (c : Cursor) : Cursor :=
  (c.span p).2

def skipSpaces (c : Cursor) : Cursor :=
  c.skip (· = ' ')

/-- The position after a comment, if one starts here. -/
def skipComment (c : Cursor) : Cursor :=
  if c.peek = '#' then c.skip fun ch => !isBreak ch else c

/-- A line break, as it counts in a text, and the position after it. -/
def lineBreak (c : Cursor) : List Char × Cursor :=
  let ch := c.peek
  if ch = '\r' ∨ ch = '\n' ∨ ch = '\u0085' then
    (['\n'], if ch = '\r' ∧ c.peek 1 = '\n' then c.advance 2 else c.forward)
  else if ch = '\u2028' ∨ ch = '\u2029' then ([ch], c.forward)
  else ([], c)

/-- Whether a mark of a document's start or end stands here. -/
def atMark (c : Cursor) (mark : Char) : Bool :=
  c.peek = mark && c.peek 1 = mark && c.peek 2 = mark && isGap (c.peek 3)

/-- Whether a document ends here, in the middle of a text that runs over several lines. -/
def atDocumentMark (c : Cursor) : Bool :=
  c.atMark '-' || c.atMark '.'

end Cursor
end EchoWatch.Yaml
