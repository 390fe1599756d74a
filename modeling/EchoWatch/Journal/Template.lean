import EchoWatch.Number.Rounded
import EchoWatch.Text.Digit
import EchoWatch.Value.Literal
/-!
# Message templates

A template is text with fields in it. A field starts with a percent sign and ends with the letter
of its kind; two percent signs are one that stands for itself. Between sign and letter a field may
name an entry of a mapping, set flags, and give a width and a precision, each as a number or as a
star that takes it from the arguments.

`pieces` reads a template into its characters and fields, `fill` fills the fields from the
arguments, and `message` does both. Without arguments the template is the message as it stands.
A field that is not well formed is a field as well: it is a fault only when the filling reaches it,
after the faults of the fields in front of it.
-/

namespace EchoWatch.Template

/-- What a field shows of its argument. -/
inductive Kind where
  /-- The value as it is shown. -/
  | shown
  /-- The notation of the value. -/
  | literal
  /-- The notation of the value in ASCII. -/
  | ascii
  | decimal
  | octal
  | hex (upper : Bool)
  | fixed (upper : Bool)
  | scientific (upper : Bool)
  | general (upper : Bool)
  /-- One character, or the character of a code point. -/
  | character
  /-- A character that stands for no kind, and its place in the template. -/
  | unknown (c : Char) (place : Nat)
  /-- The template ends before the letter. -/
  | missing
  deriving DecidableEq, Repr

/-- The kind that a letter stands for. -/
def Kind.ofLetter? : Char → Option Kind
  | 's' => some .shown
  | 'r' => some .literal
  | 'a' => some .ascii
  | 'd' | 'i' | 'u' => some .decimal
  | 'o' => some .octal
  | 'x' => some (.hex false)
  | 'X' => some (.hex true)
  | 'f' => some (.fixed false)
  | 'F' => some (.fixed true)
  | 'e' => some (.scientific false)
  | 'E' => some (.scientific true)
  | 'g' => some (.general false)
  | 'G' => some (.general true)
  | 'c' => some .character
  | _ => none

inductive Measure where
  | given (n : Nat)
  /-- The next argument says. -/
  | next
  deriving DecidableEq, Repr

/-- The name of an entry in parentheses. -/
inductive Key where
  | closed (name : List Char)
  /-- The template ends before the parenthesis that closes it. -/
  | unclosed
  deriving DecidableEq, Repr

structure Flags where
  left : Bool
  plus : Bool
  blank : Bool
  marked : Bool
  zeros : Bool
  deriving DecidableEq, Repr

/-- The flags that characters set. -/
def Flags.ofChars (cs : List Char) : Flags :=
  ⟨cs.contains '-', cs.contains '+', cs.contains ' ', cs.contains '#', cs.contains '0'⟩

structure Field where
  key : Option Key
  flags : Flags
  width : Option Measure
  precision : Option Measure
  kind : Kind
  deriving DecidableEq, Repr

/-- A piece of a template: a character that stands for itself, or a field. -/
inductive Piece where
  | char (c : Char)
  | field (f : Field)
  deriving DecidableEq, Repr

/-! ## Reading a template -/

/-- The text up to the parenthesis that closes it, and what follows. Parentheses inside are
balanced. -/
def readKey? : (depth : Nat) → List Char → Option (List Char × List Char)
  | _, [] => none
  | 0, ')' :: r => some ([], r)
  | depth + 1, ')' :: r => (readKey? depth r).map fun (key, rest) => (')' :: key, rest)
  | depth, '(' :: r => (readKey? (depth + 1) r).map fun (key, rest) => ('(' :: key, rest)
  | depth, c :: r => (readKey? depth r).map fun (key, rest) => (c :: key, rest)

/-- A name in parentheses, if a field starts with one. -/
def readName : List Char → Option Key × List Char
  | '(' :: r =>
    match readKey? 0 r with
    | some (name, rest) => (some (.closed name), rest)
    | none => (some .unclosed, [])
  | cs => (none, cs)

/-- A flag. -/
def isFlag (c : Char) : Bool :=
  ['-', '+', ' ', '#', '0'].contains c

/-- A width or a precision, if there is one. -/
def readMeasure : List Char → Option Measure × List Char
  | '*' :: r => (some .next, r)
  | cs =>
    match cs.takeWhile Text.isAsciiDigit with
    | [] => (none, cs)
    | ds => (some (.given (Text.ofDigitValues 10 (ds.map Text.asciiDigit))),
        cs.dropWhile Text.isAsciiDigit)

/-- A precision: a point and a measure, which is zero when it is missing. -/
def readPrecision : List Char → Option Measure × List Char
  | '.' :: r =>
    let (m, rest) := readMeasure r
    (some (m.getD (.given 0)), rest)
  | cs => (none, cs)

/-- What follows a mark of size, which says nothing here. -/
def skipSize : List Char → List Char
  | 'h' :: r | 'l' :: r | 'L' :: r => r
  | cs => cs

/-- The kind of a field, and what follows its letter. The template has the given length. -/
def readKind (length : Nat) : List Char → Kind × List Char
  | [] => (.missing, [])
  | c :: r => ((Kind.ofLetter? c).getD (.unknown c (length - (r.length + 1))), r)

/-- A field after its percent sign, and what follows it. The template has the given length. -/
def readField (length : Nat) (cs : List Char) : Field × List Char :=
  let (key, cs) := readName cs
  let flags := Flags.ofChars (cs.takeWhile isFlag)
  let (width, cs) := readMeasure (cs.dropWhile isFlag)
  let (precision, cs) := readPrecision cs
  let (kind, rest) := readKind length (skipSize cs)
  ({ key, flags, width, precision, kind }, rest)

/-! Each reader leaves no more than it was given. -/

theorem length_readKey? {depth : Nat} {cs key rest : List Char}
    (h : readKey? depth cs = some (key, rest)) : rest.length ≤ cs.length := by
  induction cs generalizing depth key with
  | nil => simp [readKey?] at h
  | cons c r ih =>
    have step : ∀ {d : Nat} {x : Char},
        (readKey? d r).map (fun p => (x :: p.1, p.2)) = some (key, rest) →
          rest.length ≤ (c :: r).length := by
      intro d x hx
      obtain ⟨⟨k, t⟩, ht, he⟩ := Option.map_eq_some_iff.1 hx
      cases he
      exact Nat.le_succ_of_le (ih ht)
    unfold readKey? at h
    split at h
    · cases h
    · next heq => cases heq; cases h; exact Nat.le_succ _
    · next heq => cases heq; exact step h
    · next heq => cases heq; exact step h
    · next heq => cases heq; exact step h

theorem length_readName (cs : List Char) : (readName cs).2.length ≤ cs.length := by
  unfold readName
  split
  · split
    · next h => exact Nat.le_succ_of_le (length_readKey? h)
    · exact Nat.zero_le _
  · exact Nat.le_refl _

theorem length_dropWhile_le (p : Char → Bool) (cs : List Char) :
    (cs.dropWhile p).length ≤ cs.length :=
  (List.dropWhile_sublist p).length_le

theorem length_readMeasure (cs : List Char) : (readMeasure cs).2.length ≤ cs.length := by
  unfold readMeasure
  split
  · exact Nat.le_succ _
  · split
    · exact Nat.le_refl _
    · exact length_dropWhile_le _ _

theorem length_readPrecision (cs : List Char) : (readPrecision cs).2.length ≤ cs.length := by
  unfold readPrecision
  split
  · exact Nat.le_succ_of_le (length_readMeasure _)
  · exact Nat.le_refl _

theorem length_skipSize (cs : List Char) : (skipSize cs).length ≤ cs.length := by
  unfold skipSize
  split
  · exact Nat.le_succ _
  · exact Nat.le_succ _
  · exact Nat.le_succ _
  · exact Nat.le_refl _

theorem length_readKind (length : Nat) (cs : List Char) :
    (readKind length cs).2.length ≤ cs.length := by
  unfold readKind
  split
  · exact Nat.le_refl _
  · exact Nat.le_succ _

theorem length_readField (length : Nat) (cs : List Char) :
    (readField length cs).2.length ≤ cs.length :=
  Nat.le_trans (length_readKind _ _) <| Nat.le_trans (length_skipSize _) <|
    Nat.le_trans (length_readPrecision _) <| Nat.le_trans (length_readMeasure _) <|
      Nat.le_trans (length_dropWhile_le _ _) (length_readName _)

/-- The pieces of the rest of a template of the given length. -/
def piecesFrom (length : Nat) : List Char → List Piece
  | [] => []
  | '%' :: '%' :: r => .char '%' :: piecesFrom length r
  | '%' :: r =>
    have := length_readField length r
    .field (readField length r).1 :: piecesFrom length (readField length r).2
  | c :: r => .char c :: piecesFrom length r
termination_by cs => cs.length
decreasing_by all_goals (simp only [List.length_cons]; omega)

/-- The pieces of a template. -/
def pieces (cs : List Char) : List Piece :=
  piecesFrom cs.length cs

/-! ## Faults -/

/-- Why a template has no message for its arguments. -/
inductive Fault where
  /-- A field that names an entry is not closed. -/
  | unclosedKey
  /-- The template ends inside a field. -/
  | incomplete
  /-- A character stands for no kind of field. -/
  | unknownKind (c : Char) (place : Nat)
  | widthTooBig
  | precisionTooBig
  /-- There is no entry of this name. -/
  | noEntry (name : List Char)
  /-- What is no number has no whole part. -/
  | noWholePart
  /-- A number is beyond what its field can show. -/
  | tooLarge
  /-- A text is longer than any memory. -/
  | outOfMemory
  /-- The arguments are of other kinds, or of another number, than the fields ask for. -/
  | mismatch
  deriving DecidableEq, Repr

/-- How a fault is reported. -/
def Fault.message : Fault → String
  | .unclosedKey => "incomplete format key"
  | .incomplete => "incomplete format"
  | .unknownKind c place =>
    let shown := if 31 ≤ c.toNat ∧ c.toNat ≤ 126 then c else '?'
    let code := String.ofList (Nat.toDigits 16 c.toNat)
    let place := String.ofList (Numeral.ofNat place)
    s!"unsupported format character \x27{shown}\x27 (0x{code}) at index {place}"
  | .widthTooBig => "width too big"
  | .precisionTooBig => "precision too big"
  | .noEntry name => Text.quoted (String.ofList name)
  | .noWholePart => "cannot convert float NaN to integer"
  | .tooLarge => "number too large for its format"
  | .outOfMemory => ""
  | .mismatch => "arguments do not fit their format"

/-! ## Laying out a value

A value is laid out as a sign, a head (the mark of its base) and a body. Blanks that fill the width
go around all three; zeros go between the head and the body. -/

/-- A value before it is fitted to the width of its field. -/
structure Shape where
  /-- Numbers have signs and may be filled with zeros. -/
  number : Bool
  negative : Bool := false
  head : List Char := []
  body : List Char

/-- The sign of a value. -/
def Shape.sign (s : Shape) (flags : Flags) : List Char :=
  if s.negative then ['-']
  else if s.number && flags.plus then ['+']
  else if s.number && flags.blank then [' ']
  else []

/-- A value in a field of a least width. -/
def Shape.fit (s : Shape) (flags : Flags) (width : Nat) : List Char :=
  let front := s.sign flags ++ s.head
  let gap := width - (front.length + s.body.length)
  if flags.left then front ++ s.body ++ List.replicate gap ' '
  else if s.number && flags.zeros then front ++ List.replicate gap '0' ++ s.body
  else List.replicate gap ' ' ++ front ++ s.body

/-- A text cut to a precision. -/
def ofText (precision : Option Nat) (cs : List Char) : Shape :=
  { number := false, body := (precision.map cs.take).getD cs }

/-- An integer in a base, with at least as many digits as the precision says. -/
def ofInteger (mark : List Char) (digits : List Char) (negative : Bool) (flags : Flags)
    (precision : Option Nat) : Shape :=
  let zeros := List.replicate (precision.getD 0 - digits.length) '0'
  { number := true, negative, head := if flags.marked then mark else [], body := zeros ++ digits }

/-- A double whose finite values are written by the given function of their units. -/
def ofDouble (upper : Bool) (write : Nat → List Char) (x : Binary64) : Shape :=
  let letters := fun cs : List Char => if upper then cs.map Char.toUpper else cs
  match x with
  | .finite s u => { number := true, negative := s, body := letters (write u) }
  | .infinite s => { number := true, negative := s, body := letters ['i', 'n', 'f'] }
  | .nan _ => { number := true, body := letters ['n', 'a', 'n'] }

/-- A number cut to an integer toward zero. -/
def whole : Value → Except Fault Int
  | .int n => .ok n
  | .bool b => .ok (if b then 1 else 0)
  | .float (.nan _) => .error .noWholePart
  | .float x => x.truncate?.elim (.error .tooLarge) .ok
  | _ => .error .mismatch

/-- A value that is an integer by its type. -/
def integer : Value → Except Fault Int
  | .int n => .ok n
  | .bool b => .ok (if b then 1 else 0)
  | _ => .error .mismatch

/-- A number as a double; an integer beyond all doubles is none. -/
def double : Value → Except Fault Binary64
  | .float x => .ok x
  | v => do
    let x := Binary64.ofInt (← integer v)
    if x.isFinite then return x else throw .tooLarge

/-- The one character of a text, or the character of a code point. -/
def character : Value → Except Fault Char
  | .text s =>
    match s.toList with
    | [c] => .ok c
    | _ => .error .mismatch
  | v => do
    let n ← integer v
    if 0 ≤ n ∧ n < 0x110000 then return Text.ofCode n.toNat else throw .tooLarge

/-- The largest precision of an integer. -/
def maxIntegerPrecision : Nat := 2147483644

/-- An integer in a field that asks for it by the given digits. -/
def integerShape (mark : List Char) (digits : Nat → List Char) (flags : Flags)
    (precision : Option Nat) (n : Int) : Except Fault Shape :=
  if precision.any (maxIntegerPrecision < ·) then .error .tooLarge
  else .ok (ofInteger mark (digits n.natAbs) (n < 0) flags precision)

/-- A value in the way a field asks for. -/
def shape (kind : Kind) (flags : Flags) (precision : Option Nat) (v : Value) :
    Except Fault Shape :=
  match kind with
  | .shown => .ok (ofText precision v.shown.toList)
  | .literal => .ok (ofText precision v.literal.toList)
  | .ascii => .ok (ofText precision (v.literal.toList.flatMap Text.asciiEscaped))
  | .decimal => (whole v).bind (integerShape [] Numeral.ofNat flags precision)
  | .octal => (integer v).bind (integerShape ['0', 'o'] (Nat.toDigits 8) flags precision)
  | .hex false => (integer v).bind (integerShape ['0', 'x'] (Nat.toDigits 16) flags precision)
  | .hex true =>
    let digits := fun n => (Nat.toDigits 16 n).map Char.toUpper
    (integer v).bind (integerShape ['0', 'X'] digits flags precision)
  | .fixed upper =>
    (double v).map (ofDouble upper (Binary64.fixedText flags.marked · (precision.getD 6)))
  | .scientific upper =>
    (double v).map (ofDouble upper (Binary64.scientificText flags.marked · (precision.getD 6)))
  | .general upper =>
    (double v).map (ofDouble upper (Binary64.generalText flags.marked · (precision.getD 6)))
  | .character => (character v).map fun c => ofText none [c]
  | .unknown c place => .error (.unknownKind c place)
  | .missing => .error .incomplete

/-! ## Filling the fields -/

/-- The largest width that a template may give. -/
def maxWidth : Nat := 9223372036854775807

/-- The largest precision. -/
def maxPrecision : Nat := 2147483647

/-- The longest text that a field is filled up to. -/
def longest : Nat := 2147483647

/-- What the fields draw from: values in order, and the entries that fields name. -/
structure Supply where
  entries : Option (List (Value × Value))
  queue : List Value

namespace Supply

/-- The supply of a call. A single mapping that is not empty serves the fields that name entries. -/
def ofArguments : List Value → Supply
  | [.map (e :: es)] => ⟨some (e :: es), [.map (e :: es)]⟩
  | args => ⟨none, args⟩

/-- The next value, and the supply after it. -/
def draw (s : Supply) : Except Fault (Value × Supply) :=
  match s.queue with
  | [] => .error .mismatch
  | v :: rest => .ok (v, { s with queue := rest })

/-- The supply of a field: what it names is the one value left. -/
def named (s : Supply) : Option Key → Except Fault Supply
  | none => .ok s
  | some key =>
    match s.entries, key with
    | none, _ => .error .mismatch
    | some _, .unclosed => .error .unclosedKey
    | some entries, .closed name =>
      match Value.lookup? (String.ofList name) entries with
      | some v => .ok { s with queue := [v] }
      | none => .error (.noEntry name)

/-- A measure as a number, which is zero when it is missing. One that the template gives beyond the
limit is the given fault. -/
def measure (s : Supply) (limit : Nat) (fault : Fault) :
    Option Measure → Except Fault (Option Int × Supply)
  | none => .ok (none, s)
  | some (.given n) => if n ≤ limit then .ok (some n, s) else .error fault
  | some .next => do
    let (v, s) ← s.draw
    let n ← integer v
    if -(limit : Int) - 1 ≤ n ∧ n ≤ limit then return (some n, s) else throw .tooLarge

/-- Whether nothing is left that had to be used. -/
def isSpent (s : Supply) : Bool :=
  s.entries.isSome || s.queue.isEmpty

end Supply

/-- The text of a field, and the supply after it. A negative width puts the blanks behind the value,
and a negative precision counts as zero. -/
def Field.fill (f : Field) (s : Supply) : Except Fault (List Char × Supply) := do
  let s ← s.named f.key
  let (width, s) ← s.measure maxWidth .widthTooBig f.width
  let (precision, s) ← s.measure maxPrecision .precisionTooBig f.precision
  if f.kind = .missing then throw .incomplete
  let (v, s) ← s.draw
  let shape ← shape f.kind f.flags (precision.map Int.toNat) v
  let width := width.getD 0
  let flags := if width < 0 then { f.flags with left := true } else f.flags
  -- the least width has no counterpart and asks for nothing
  let width := if width.natAbs ≤ maxWidth then width.natAbs else 0
  if longest < width then throw .outOfMemory
  return (shape.fit flags width, s)

/-- The text of a template whose fields draw from a supply. -/
def fill : List Piece → Supply → Except Fault (List Char)
  | [], s => if s.isSpent then .ok [] else .error .mismatch
  | .char c :: ps, s => (fill ps s).map (c :: ·)
  | .field f :: ps, s => do
    let (text, s) ← f.fill s
    let rest ← fill ps s
    return text ++ rest

/-- The message of a template with its arguments. -/
def message (template : String) (args : List Value) : Except Fault String :=
  if args.isEmpty then .ok template
  else (fill (pieces template.toList) (.ofArguments args)).map String.ofList

end EchoWatch.Template
