import EchoWatch.Yaml.Draft
import EchoWatch.Yaml.Number
import EchoWatch.Yaml.Scalar
/-!
# From text to tokens

Indentation becomes explicit: a deeper column opens a block and a shallower one closes it. What
makes a scalar the key of a mapping is only the colon after it, so every place where a key could
start is remembered until the colon comes or the place is out of reach: a key stands on one line
and has at most 1024 characters. Tokens are only ever added at the end; the places that turned out
to be keys are marked, and `withKeys` puts the marks in at last.
-/

namespace EchoWatch.Yaml

/-- A place where a key may start: its token, its position, and whether it must be a key because
nothing else can stand there. -/
structure KeyPlace where
  token : Nat
  index : Nat
  line : Nat
  column : Nat
  needed : Bool
  deriving Repr

structure Layout where
  cursor : Cursor
  /-- The tokens read so far, the last one first. -/
  tokens : List Token
  count : Nat
  /-- The tokens that start a key, and whether the key opens a block mapping. -/
  marks : List (Nat × Bool)
  /-- How many brackets and braces are open. -/
  flow : Nat
  indent : Int
  indents : List Int
  keyAllowed : Bool
  /-- The places of possible keys, by the number of open brackets. -/
  places : List (Nat × KeyPlace)

namespace Layout

def start (cs : List Char) : Layout :=
  { cursor := .start cs, tokens := [], count := 0, marks := [], flow := 0, indent := -1
    indents := [], keyAllowed := true, places := [] }

def push (l : Layout) (t : Token) : Layout :=
  { l with tokens := t :: l.tokens, count := l.count + 1 }

/-- One more token that takes some characters. -/
def take (l : Layout) (t : Token) (width : Nat) : Layout :=
  { l.push t with cursor := l.cursor.advance width }

/-- Allows or forbids a key to start at the next token. -/
def allow (l : Layout) (b : Bool) : Layout :=
  { l with keyAllowed := b }

/-! ### Places of keys -/

/-- The place on the current level. -/
def place? (l : Layout) : Option KeyPlace :=
  (l.places.find? fun p => p.1 = l.flow).map Prod.snd

/-- Whether a place is out of reach. -/
def isStale (c : Cursor) (p : KeyPlace) : Bool :=
  p.line ≠ c.line || 1024 < c.index - p.index

/-- Forgets the places out of reach. One that was needed is an error. -/
def dropStale (l : Layout) : Except Halt Layout :=
  if l.places.any fun p => isStale l.cursor p.2 && p.2.needed then .error l.cursor.halt
  else .ok { l with places := l.places.filter fun p => !isStale l.cursor p.2 }

/-- Forgets the place on the current level. One that was needed is an error. -/
def dropPlace (l : Layout) : Except Halt Layout :=
  match l.place? with
  | some p =>
    if p.needed then .error l.cursor.halt
    else .ok { l with places := l.places.filter fun q => q.1 ≠ l.flow }
  | none => .ok l

/-- Remembers that the next token may be a key. -/
def savePlace (l : Layout) : Except Halt Layout :=
  if l.keyAllowed then
    match l.dropPlace with
    | .error e => .error e
    | .ok l =>
      let c := l.cursor
      -- at the column of its block nothing but a key can stand
      let needed := l.flow = 0 && l.indent = c.column
      .ok { l with places := l.places ++ [(l.flow, ⟨l.count, c.index, c.line, c.column, needed⟩)] }
  else .ok l

/-! ### Blocks -/

/-- Closes the blocks that are deeper than a column. -/
def unwind (column : Int) : (fuel : Nat) → Layout → Layout
  | 0, l => l
  | fuel + 1, l =>
    if l.flow = 0 ∧ column < l.indent then
      unwind column fuel
        { l.push .blockEnd with indent := l.indents.headD (-1), indents := l.indents.drop 1 }
    else l

def unwindTo (l : Layout) (column : Int) : Layout :=
  unwind column (l.indents.length + 1) l

/-- Opens a block at a column, if that is deeper than the current one. -/
def indentTo (l : Layout) (column : Nat) : Option Layout :=
  if l.indent < column then
    some { l with indent := column, indents := l.indent :: l.indents }
  else none

/-- Opens a block at the cursor, with its token, if that is deeper than the current one. -/
def openBlock (l : Layout) (t : Token) : Layout :=
  match l.indentTo l.cursor.column with
  | some l => l.push t
  | none => l

/-! ### Blanks -/

/-- The position of the next token: blanks, comments and line breaks are passed over. -/
def skipBlanks : (fuel : Nat) → Layout → Layout
  | 0, l => l
  | fuel + 1, l =>
    let c := l.cursor.skipSpaces.skipComment
    if isBreak c.peek then
      skipBlanks fuel
        { l with cursor := c.lineBreak.2, keyAllowed := if l.flow = 0 then true else l.keyAllowed }
    else { l with cursor := c }

/-! ### Tokens -/

/-- A name after its sign. -/
def name (c : Cursor) : Read (List Char) :=
  let (taken, c) := c.span isNameChar
  if taken = [] then .error c.halt else .ok (taken, c)

/-- The text of an anchor or an alias. -/
def anchorName (c : Cursor) : Read (List Char) :=
  match name c.forward with
  | .error e => .error e
  | .ok (taken, c) =>
    if isGap c.peek ∨ ['?', ':', ',', ']', '\x7d', '%', '@', '\x60'].contains c.peek then
      .ok (taken, c)
    else .error c.halt

/-- The handle of a tag: an exclamation mark, or a name between two of them. -/
def tagHandle (c : Cursor) : Read (List Char) :=
  if c.peek ≠ '!' then .error c.halt
  else if c.peek 1 = ' ' then .ok (['!'], c.forward)
  else
    let (taken, c') := c.forward.span isNameChar
    if c'.peek = '!' then .ok ('!' :: taken ++ ['!'], c'.forward) else .error c'.halt

/-- A character that the suffix of a tag may hold. -/
def isUriChar (c : Char) : Bool :=
  c.isAlphanum || [
    '-', ';', '/', '?', ':', '@', '&', '=', '+', '$', ',', '_', '.', '!', '~', '*', '\'', '(', ')',
    '[', ']'].contains c

/-- The bytes written as percent signs with two digits. -/
def uriBytes : (fuel : Nat) → Cursor → Read (List UInt8)
  | 0, c => .ok ([], c)
  | fuel + 1, c =>
    if c.peek = '%' then
      match Text.hexValue? (c.peek 1), Text.hexValue? (c.peek 2) with
      | some a, some b =>
        match uriBytes fuel (c.advance 3) with
        | .error e => .error e
        | .ok (bs, c) => .ok (UInt8.ofNat (16 * a + b) :: bs, c)
      | _, _ => .error (c.forward.skip fun ch => (Text.hexValue? ch).isSome).halt
    else .ok ([], c)

/-- The suffix of a tag, with its escapes resolved. -/
def uriText : (fuel : Nat) → Cursor → Read (List Char)
  | 0, c => .ok ([], c)
  | fuel + 1, c =>
    let (taken, c) := c.span isUriChar
    if c.peek = '%' then
      match uriBytes fuel c with
      | .error e => .error e
      | .ok (bytes, c) =>
        match String.fromUTF8? ⟨bytes.toArray⟩ with
        | none => .error c.halt
        | some s =>
          match uriText fuel c with
          | .error e => .error e
          | .ok (r, c) => .ok (taken ++ s.toList ++ r, c)
    else .ok (taken, c)

/-- The suffix of a tag; there must be one. -/
def uri (c : Cursor) : Read (List Char) :=
  match uriText (c.rest.length + 1) c with
  | .error e => .error e
  | .ok (taken, c') =>
    if c'.index = c.index then .error c.halt else .ok (taken, c')

/-- Whether a tag has a handle with a name. -/
def hasHandle (c : Cursor) : Bool :=
  ((c.forward.span fun ch => ch ≠ '!' && !endsWord ch).2).peek = '!'

/-- A tag. -/
def tag (c : Cursor) : Read Token :=
  let found : Read Token :=
    if c.peek 1 = '<' then
      match uri (c.advance 2) with
      | .error e => .error e
      | .ok (suffix, c) =>
        if c.peek = '>' then .ok (.tag none suffix, c.forward) else .error c.halt
    else if isGap (c.peek 1) then .ok (.tag none ['!'], c.forward)
    else
      match if hasHandle c then tagHandle c else .ok (['!'], c.forward) with
      | .error e => .error e
      | .ok (handle, c) =>
        match uri c with
        | .error e => .error e
        | .ok (suffix, c) => .ok (.tag (some handle) suffix, c)
  match found with
  | .error e => .error e
  | .ok (t, c) => if endsWord c.peek then .ok (t, c) else .error c.halt

/-- The digits of a version. -/
def versionNumber (c : Cursor) : Read Nat :=
  let (ds, c) := c.span Text.isAsciiDigit
  if ds = [] then .error c.halt
  else if Numeral.maxDigits < ds.length then .error (c.halt (Number.tooLong ds.length))
  else .ok (Text.ofDigitValues 10 (ds.map Text.asciiDigit), c)

/-- The value of a directive that names the version. -/
def yamlDirective (c : Cursor) : Read Token :=
  match versionNumber c.skipSpaces with
  | .error e => .error e
  | .ok (major, c) =>
    if c.peek ≠ '.' then .error c.halt
    else
      match versionNumber c.forward with
      | .error e => .error e
      | .ok (_, c) =>
        if endsWord c.peek then .ok (.yamlDirective major, c) else .error c.halt

/-- The value of a directive that gives a tag's handle its meaning. -/
def tagDirective (c : Cursor) : Read Token :=
  match tagHandle c.skipSpaces with
  | .error e => .error e
  | .ok (handle, c) =>
    if c.peek ≠ ' ' then .error c.halt
    else
      match uri c.skipSpaces with
      | .error e => .error e
      | .ok (expansion, c) =>
        if endsWord c.peek then .ok (.tagDirective handle expansion, c) else .error c.halt

/-- A directive, with the rest of its line. -/
def directive (c : Cursor) : Read Token :=
  match name c.forward with
  | .error e => .error e
  | .ok (which, c) =>
    if !endsWord c.peek then .error c.halt
    else
      let found := if which = "YAML".toList then yamlDirective c
        else if which = "TAG".toList then tagDirective c
        else .ok (.otherDirective, c.skip fun ch => !isBreak ch)
      match found with
      | .error e => .error e
      | .ok (t, c) => (restOfLine c).map fun c => (t, c)

/-- A token that was read together with the position after it. -/
def read (l : Layout) : Read Token → Except Halt Layout
  | .error h => .error h
  | .ok (t, c) => .ok { l.push t with cursor := c }

/-- Ends all blocks before a directive or a mark of a document. -/
def endBlocks (l : Layout) : Except Halt Layout :=
  ((l.unwindTo (-1)).dropPlace).map fun l => l.allow false

/-- A token that may be the start of a key. -/
def keyCandidate (l : Layout) (token : Cursor → Read Token) : Except Halt Layout :=
  match l.savePlace with
  | .error e => .error e
  | .ok l => (l.allow false).read (token l.cursor)

/-- The start of a flow collection. -/
def openFlow (l : Layout) (t : Token) : Except Halt Layout :=
  l.savePlace.map fun l => ({ l with flow := l.flow + 1 }.allow true).take t 1

/-- The end of a flow collection. -/
def closeFlow (l : Layout) (t : Token) : Except Halt Layout :=
  l.dropPlace.map fun l => ({ l with flow := l.flow - 1 }.allow false).take t 1

def entry (l : Layout) : Except Halt Layout :=
  if l.flow = 0 ∧ !l.keyAllowed then .error l.cursor.halt
  else
    let l := if l.flow = 0 then l.openBlock .blockSequenceStart else l
    (l.allow true).dropPlace.map fun l => l.take .blockEntry 1

/-- A key with its own sign. -/
def explicitKey (l : Layout) : Except Halt Layout :=
  if l.flow = 0 ∧ !l.keyAllowed then .error l.cursor.halt
  else
    let l := if l.flow = 0 then l.openBlock .blockMappingStart else l
    (l.allow (l.flow = 0)).dropPlace.map fun l => l.take .key 1

/-- A colon: it makes the place on its level a key, if there is one. -/
def colon (l : Layout) : Except Halt Layout :=
  match l.place? with
  | some p =>
    let l := { l with places := l.places.filter fun q => q.1 ≠ l.flow }
    let (opens, l) := match if l.flow = 0 then l.indentTo p.column else none with
      | some l => (true, l)
      | none => (false, l)
    -- the key has been read already: its token is marked, not moved
    .ok (({ l with marks := (p.token, opens) :: l.marks }.allow false).take .value 1)
  | none =>
    if l.flow = 0 ∧ !l.keyAllowed then .error l.cursor.halt
    else
      let l := if l.flow = 0 then l.openBlock .blockMappingStart else l
      (l.allow (l.flow = 0)).dropPlace.map fun l => l.take .value 1

def block (l : Layout) (folded : Bool) : Except Halt Layout :=
  (l.allow true).dropPlace.bind fun l =>
    l.read ((blockScalar folded l.indent l.cursor).map fun (text, c) => (.scalar false text, c))

/-- A plain scalar. A key may follow it at the beginning of a line. -/
def plain (l : Layout) : Except Halt Layout :=
  l.savePlace.map fun l =>
    let ((text, broken), c) := plainScalar (0 < l.flow) l.indent l.cursor
    { (l.allow broken).push (.scalar true text) with cursor := c }

/-- Whether a plain scalar may start here. -/
def startsPlain (l : Layout) : Bool :=
  let ch := l.cursor.peek
  let signs := ['-', '?', ':', ',', '[', ']', '\x7b', '\x7d', '#', '&', '*', '!', '|', '>', '\'',
    '"', '%', '@', '\x60']
  (!isGap ch && !signs.contains ch)
    || (!isGap (l.cursor.peek 1) && (ch = '-' || (l.flow = 0 && (ch = '?' || ch = ':'))))

/-- Reads the token at the cursor. -/
def token (l : Layout) : Except Halt Layout :=
  let c := l.cursor
  let ch := c.peek
  let spaced := isGap (c.peek 1)
  let atStart := c.column = 0
  -- what is meant only at the beginning of a line
  if ch = '%' ∧ atStart then l.endBlocks.bind fun l => l.read (directive l.cursor)
  else if atStart ∧ c.atMark '-' then l.endBlocks.map fun l => l.take .documentStart 3
  else if atStart ∧ c.atMark '.' then l.endBlocks.map fun l => l.take .documentEnd 3
  -- signs that stand by themselves
  else if ch = '[' then l.openFlow .flowSequenceStart
  else if ch = '\x7b' then l.openFlow .flowMappingStart
  else if ch = ']' then l.closeFlow .flowSequenceEnd
  else if ch = '\x7d' then l.closeFlow .flowMappingEnd
  else if ch = ',' then (l.allow true).dropPlace.map fun l => l.take .flowEntry 1
  -- signs that need a gap behind them; inside brackets the last two do not
  else if ch = '-' ∧ spaced then l.entry
  else if ch = '?' ∧ (0 < l.flow ∨ spaced) then l.explicitKey
  else if ch = ':' ∧ (0 < l.flow ∨ spaced) then l.colon
  -- what may be a key or stand in front of one
  else if ch = '*' then
    l.keyCandidate fun c => (anchorName c).map fun (n, c) => (.alias n, c)
  else if ch = '&' then
    l.keyCandidate fun c => (anchorName c).map fun (n, c) => (.anchor n, c)
  else if ch = '!' then l.keyCandidate tag
  else if (ch = '|' ∨ ch = '>') ∧ l.flow = 0 then l.block (ch = '>')
  else if ch = '\'' ∨ ch = '"' then
    l.keyCandidate fun c => (quotedScalar (ch = '"') c).map fun (s, c) => (.scalar false s, c)
  else if l.startsPlain then l.plain
  else .error l.cursor.halt

/-- One more token, and with it the ends of blocks in front of it. -/
def step (l : Layout) : Except Halt Layout :=
  match (skipBlanks (l.cursor.rest.length + 1) l).dropStale with
  | .error h => .error h
  | .ok l =>
    let l := l.unwindTo l.cursor.column
    if isEnd l.cursor.peek then l.endBlocks.map fun l => { l.push .streamEnd with places := [] }
    else l.token.bind dropStale

/-- How many tokens are known for good: from the first place that may still become a key on, none
is. -/
def known (l : Layout) : Nat :=
  l.places.foldl (fun least p => min least p.2.token) l.count

/-- The tokens that are known for good, with the keys put in. -/
def withKeys (l : Layout) : List Token :=
  (l.tokens.reverse.take l.known).zipIdx.flatMap fun (t, i) =>
    match l.marks.find? fun m => m.1 = i with
    | some (_, true) => [.blockMappingStart, .key, t]
    | some (_, false) => [.key, t]
    | none => [t]

/-- What comes of reading a text: its tokens, and why there are no more of them if the text does
not end there. -/
structure Scan where
  tokens : List Token
  fault : Option Error
  deriving Repr

/-- Reads tokens up to the end of a draft. Where it ends too early, its fault is the first one. -/
def run (d : Draft) : (fuel : Nat) → Layout → Scan
  | 0, l => ⟨l.withKeys, some .malformed⟩
  | fuel + 1, l =>
    match l.step with
    | .error h =>
      ⟨l.withKeys, if d.chars.length ≤ h.index then d.fault.or (some h.error) else some h.error⟩
    | .ok more =>
      if more.cursor.rest = [] ∧ d.fault.isSome then ⟨l.withKeys, d.fault⟩
      else if more.tokens.head? = some .streamEnd then ⟨more.withKeys, none⟩
      else run d fuel more

def scan (d : Draft) : Scan :=
  run d (d.chars.length + 2) (.start d.chars)

end Layout
end EchoWatch.Yaml
