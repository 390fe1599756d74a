import EchoWatch.Text.Digit
import EchoWatch.Text.Half
import EchoWatch.Yaml.Token
/-!
# Texts of scalars

The ways to write a scalar: plain, between quotes, and as a block of lines. Each reader takes the
position at which a scalar starts and gives its text and the position after it. A reader runs as
long as there are characters left, which is its fuel.
-/

namespace EchoWatch.Yaml

/-- The outcome of a reader. -/
abbrev Read (α : Type) := Except Halt (α × Cursor)

/-! ### Quoted scalars -/

/-- What a character stands for after a backslash. -/
def escape? : Char → Option Char
  | '0' => some '\x00'
  | 'a' => some '\x07'
  | 'b' => some '\x08'
  | 't' | '\t' => some '\t'
  | 'n' => some '\n'
  | 'v' => some '\x0b'
  | 'f' => some '\x0c'
  | 'r' => some '\r'
  | 'e' => some '\x1b'
  | ' ' => some ' '
  | '"' => some '"'
  | '\\' => some '\\'
  | '/' => some '/'
  | 'N' => some '\u0085'
  | '_' => some '\u00a0'
  | 'L' => some '\u2028'
  | 'P' => some '\u2029'
  | _ => none

/-- The digits of a character written by its number. -/
def codeLength? : Char → Option Nat
  | 'x' => some 2
  | 'u' => some 4
  | 'U' => some 8
  | _ => none

/-- The line breaks inside a quoted scalar, with the blanks around them dropped. -/
def quotedBreaks : (fuel : Nat) → Cursor → Read (List Char)
  | 0, c => .error c.halt
  | fuel + 1, c =>
    if c.atDocumentMark then .error c.halt
    else
      let c := c.skip fun ch => ch = ' ' || ch = '\t'
      if isBreak c.peek then
        let (b, c) := c.lineBreak
        match quotedBreaks fuel c with
        | .error e => .error e
        | .ok (bs, c) => .ok (b ++ bs, c)
      else .ok ([], c)

/-- A character written by its number. -/
def numbered (length : Nat) (c : Cursor) : Read (List Char) :=
  match ((List.range length).map fun k => c.peek k).mapM Text.hexValue? with
  | none => .error (c.skip fun ch => (Text.hexValue? ch).isSome).halt
  | some ds =>
    let n := Text.ofDigitValues 16 ds
    if n < 0x110000 then .ok ([Text.ofCode n], c.advance length)
    -- beyond thirty-one bits the number is no number of a character at all
    else if 2147483648 ≤ n then .error (c.halt .numberTooLarge)
    else .error (c.halt (.badValue "chr() arg not in range(0x110000)"))

/-- The characters of a quoted scalar up to the next blank, line break or closing quote. -/
def quotedWord (double : Bool) : (fuel : Nat) → Cursor → Read (List Char)
  | 0, c => .error c.halt
  | fuel + 1, c =>
    let (taken, c) := c.span fun ch => !(ch = '\'' || ch = '"' || ch = '\\' || isGap ch)
    let more (add : List Char) (c : Cursor) : Read (List Char) :=
      match quotedWord double fuel c with
      | .error e => .error e
      | .ok (r, c) => .ok (taken ++ add ++ r, c)
    let ch := c.peek
    -- between single quotes only a quote is special, and it is written twice
    if !double ∧ ch = '\'' ∧ c.peek 1 = '\'' then more ['\''] (c.advance 2)
    else if (double ∧ ch = '\'') ∨ (!double ∧ (ch = '"' ∨ ch = '\\')) then more [ch] c.forward
    else if double ∧ ch = '\\' then
      let c := c.forward
      match escape? c.peek, codeLength? c.peek with
      | some d, _ => more [d] c.forward
      | none, some length =>
        match numbered length c.forward with
        | .error e => .error e
        | .ok (d, c) => more d c
      | none, none =>
        -- an escaped line break joins two lines
        if isBreak c.peek then
          match quotedBreaks (c.rest.length + 1) c.lineBreak.2 with
          | .error e => .error e
          | .ok (bs, c) => more bs c
        else .error c.halt
    else .ok (taken, c)

/-- The blanks of a quoted scalar. Those around a line break are folded into it. -/
def quotedBlanks (c : Cursor) : Read (List Char) :=
  let (blanks, c) := c.span fun ch => ch = ' ' || ch = '\t'
  if isEnd c.peek then .error c.halt
  else if isBreak c.peek then
    let (b, c) := c.lineBreak
    match quotedBreaks (c.rest.length + 1) c with
    | .error e => .error e
    | .ok (bs, c) =>
      -- a single line feed becomes a space; of several the first one is dropped
      if b ≠ ['\n'] then .ok (b ++ bs, c)
      else if bs = [] then .ok ([' '], c)
      else .ok (bs, c)
  else .ok (blanks, c)

/-- The rest of a quoted scalar, up to its closing quote. -/
def quotedRest (double : Bool) : (fuel : Nat) → Cursor → Read (List Char)
  | 0, c => .error c.halt
  | fuel + 1, c =>
    if c.peek = (if double then '"' else '\'') then .ok ([], c.forward)
    else
      match quotedBlanks c with
      | .error e => .error e
      | .ok (blanks, c) =>
        match quotedWord double (c.rest.length + 1) c with
        | .error e => .error e
        | .ok (word, c) =>
          match quotedRest double fuel c with
          | .error e => .error e
          | .ok (r, c) => .ok (blanks ++ word ++ r, c)

def quotedScalar (double : Bool) (c : Cursor) : Read (List Char) :=
  let c := c.forward
  match quotedWord double (c.rest.length + 1) c with
  | .error e => .error e
  | .ok (word, c) =>
    match quotedRest double (c.rest.length + 1) c with
    | .error e => .error e
    | .ok (r, c) => .ok (word ++ r, c)

/-! ### Block scalars -/

/-- The header of a block scalar: whether the last line break is kept, dropped or everything is
kept (`none`, `some false`, `some true`), and the indentation, if it is given. -/
def blockHeader (c : Cursor) : Read (Option Bool × Option Nat) :=
  let chomp (c : Cursor) : Option Bool × Cursor :=
    if c.peek = '+' then (some true, c.forward)
    else if c.peek = '-' then (some false, c.forward)
    else (none, c)
  let increment (c : Cursor) : Option Nat × Cursor :=
    if Text.isAsciiDigit c.peek then (some (Text.asciiDigit c.peek), c.forward) else (none, c)
  let (chomping, c) := chomp c
  let (step, c) := increment c
  let (chomping, c) := if chomping.isSome || step.isNone then (chomping, c) else chomp c
  if step = some 0 ∨ !endsWord c.peek then .error c.halt else .ok ((chomping, step), c)

/-- The rest of a line that may hold a comment and nothing else. -/
def restOfLine (c : Cursor) : Except Halt Cursor :=
  let c := c.skipSpaces.skipComment
  if endsLine c.peek then .ok c.lineBreak.2 else .error c.halt

/-- The empty lines at the start of a block scalar, and the deepest column of their spaces. -/
def blockIndentation : (fuel : Nat) → (deepest : Nat) → Cursor → (List Char × Nat) × Cursor
  | 0, deepest, c => (([], deepest), c)
  | fuel + 1, deepest, c =>
    if c.peek = ' ' then
      let c := c.forward
      blockIndentation fuel (max deepest c.column) c
    else if isBreak c.peek then
      let (b, c) := c.lineBreak
      let ((bs, deepest), c) := blockIndentation fuel deepest c
      ((b ++ bs, deepest), c)
    else (([], deepest), c)

/-- The position after spaces that do not reach beyond a column. -/
def indentTo (column : Nat) : (fuel : Nat) → Cursor → Cursor
  | 0, c => c
  | fuel + 1, c => if c.column < column ∧ c.peek = ' ' then indentTo column fuel c.forward else c

/-- The empty lines between the lines of a block scalar. -/
def blockBreaks (column : Nat) : (fuel : Nat) → Cursor → List Char × Cursor
  | 0, c => ([], c)
  | fuel + 1, c =>
    let c := indentTo column column c
    if isBreak c.peek then
      let (b, c) := c.lineBreak
      let (bs, c) := blockBreaks column fuel c
      (b ++ bs, c)
    else ([], c)

/-- A space or a tab. -/
def isBlankChar (c : Char) : Bool :=
  c = ' ' || c = '\t'

/-- The lines of a block scalar: their text, the last line break and the empty lines after it. -/
def blockLines (folded : Bool) (column : Nat) :
    (fuel : Nat) → (breaks : List Char) → Cursor → (List Char × List Char × List Char) × Cursor
  | 0, breaks, c => (([], [], breaks), c)
  | fuel + 1, breaks, c =>
    if c.column = column ∧ !isEnd c.peek then
      let flush := !isBlankChar c.peek
      let (line, c) := c.span fun ch => !isBreak ch
      let (b, c) := c.lineBreak
      let (after, c) := blockBreaks column (c.rest.length + 1) c
      if c.column = column ∧ !isEnd c.peek then
        -- two flush lines are folded into one
        let glue :=
          if folded ∧ b = ['\n'] ∧ flush ∧ !isBlankChar c.peek then
            if after = [] then [' '] else []
          else b
        let ((text, last, tail), c) := blockLines folded column fuel after c
        ((breaks ++ line ++ glue ++ text, last, tail), c)
      else ((breaks ++ line, b, after), c)
    else (([], [], breaks), c)

/-- A block scalar inside a block of the given indentation. -/
def blockScalar (folded : Bool) (indent : Int) (c : Cursor) : Read (List Char) :=
  match blockHeader c.forward with
  | .error e => .error e
  | .ok ((chomping, step), c) =>
    match restOfLine c with
    | .error e => .error e
    | .ok c =>
      let least := (max (indent + 1) 1).toNat
      let fuel := c.rest.length + 1
      let (column, breaks, c) := match step with
        | none =>
          let ((breaks, deepest), c) := blockIndentation fuel 0 c
          (max least deepest, breaks, c)
        | some k =>
          let (breaks, c) := blockBreaks (least + k - 1) fuel c
          (least + k - 1, breaks, c)
      let ((text, last, tail), c) := blockLines folded column fuel breaks c
      let kept := if chomping = some false then [] else last
      .ok (text ++ kept ++ (if chomping = some true then tail else []), c)

/-! ### Plain scalars -/

/-- A plain scalar ends at this character, before the one that follows it. -/
def endsPlain (flow : Bool) (ch next : Char) : Bool :=
  isGap ch
    || (ch = ':' && (isGap next || (flow && [',', '[', ']', '\x7b', '\x7d'].contains next)))
    || (flow && [',', '?', '[', ']', '\x7b', '\x7d'].contains ch)

/-- How many characters of a plain scalar follow without a gap. -/
def plainLength (flow : Bool) : List Char → Nat
  | [] => 0
  | ch :: r => if endsPlain flow ch (r.head?.getD '\x00') then 0 else plainLength flow r + 1

/-- The empty lines inside a plain scalar; nothing when the document ends there. -/
def plainBreaks : (fuel : Nat) → Cursor → Option (List Char) × Cursor
  | 0, c => (some [], c)
  | fuel + 1, c =>
    if c.peek = ' ' then plainBreaks fuel c.forward
    else if isBreak c.peek then
      let (b, c) := c.lineBreak
      if c.atDocumentMark then (none, c)
      else
        let (bs, c) := plainBreaks fuel c
        (bs.map (b ++ ·), c)
    else (some [], c)

/-- The gap between two words of a plain scalar, and whether it holds a line break. Tabs do not
count. -/
def plainGap (c : Cursor) : (List Char × Bool) × Cursor :=
  let (blanks, c) := c.span (· = ' ')
  if isBreak c.peek then
    let (b, c) := c.lineBreak
    if c.atDocumentMark then (([], true), c)
    else
      match plainBreaks (c.rest.length + 1) c with
      | (none, c) => (([], true), c)
      | (some bs, c) =>
        if b ≠ ['\n'] then ((b ++ bs, true), c)
        else if bs = [] then (([' '], true), c)
        else ((bs, true), c)
  else ((blanks, false), c)

/-- The words of a plain scalar, after a gap. The flag tells whether the scalar's end stands at the
beginning of a line. -/
def plainWords (flow : Bool) (indent : Int) :
    (fuel : Nat) → (gap : List Char) → (broken : Bool) → Cursor → (List Char × Bool) × Cursor
  | 0, _, broken, c => (([], broken), c)
  | fuel + 1, gap, broken, c =>
    let length := plainLength flow c.rest
    if c.peek = '#' ∨ length = 0 then (([], broken), c)
    else
      let word := c.rest.take length
      let ((gap', broken), c) := plainGap (c.advance length)
      if gap' = [] ∨ c.peek = '#' ∨ (!flow ∧ (c.column : Int) < indent) then
        ((gap ++ word, broken), c)
      else
        let ((text, broken), c) := plainWords flow indent fuel gap' broken c
        ((gap ++ word ++ text, broken), c)

/-- A plain scalar inside a block of the given indentation. -/
def plainScalar (flow : Bool) (indent : Int) (c : Cursor) : (List Char × Bool) × Cursor :=
  plainWords flow (indent + 1) (c.rest.length + 1) [] false c

end EchoWatch.Yaml
