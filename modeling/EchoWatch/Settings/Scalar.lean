import EchoWatch.Settings.Fault
import EchoWatch.Text.Blank
import EchoWatch.Text.Digit
import EchoWatch.Text.Half
import EchoWatch.Text.Split
/-!
# Scalars of a configuration

How texts and integers are taken from document values. A text is a text. An integer may also be a
truth value, a number without a fraction, or a text that spells an integer in decimal digits: zeros
in front, single underscores between them and a fraction of zeros do not count.
-/

namespace EchoWatch.Settings

/-- A text; raw bytes count when they are valid UTF-8. -/
def asText : Value → Check String
  | .text s => .valid s
  | .bytes bs =>
    match String.fromUTF8? ⟨bs.toArray⟩ with
    | some s => .valid s
    | none => .fault .notUnicode
  | _ => .fault .notText

/-- A text of whole characters. -/
def asWholeText (v : Value) : Check String :=
  (asText v).andThen fun s => if Text.hasHalf s then .fault .notUnicode else .valid s

/-- A text of at least one character, all of them whole. -/
def asNonemptyText (v : Value) : Check String :=
  (asWholeText v).andThen fun s => if s = "" then .fault .emptyText else .valid s

/-! ### Integers written as texts -/

/-- White space around a number: separators of information do not count. -/
def isPadding (c : Char) : Bool :=
  Text.isBlank c && !(0x1C ≤ c.toNat && c.toNat ≤ 0x1F)

/-- A text without the padding at its ends. -/
def unpad (cs : List Char) : List Char :=
  ((cs.dropWhile isPadding).reverse.dropWhile isPadding).reverse

/-- A character at which the zeros in front of a number end: another digit, or a minus. -/
def startsNumber (c : Char) : Bool :=
  c = '-' || ('1' ≤ c && c ≤ '9')

/-- A numeral after a leading zero: the zeros and underscores that follow are passed over. The last
of them stays when nothing else is left or a point follows. -/
def afterZero? (last : Char) : List Char → Option (List Char)
  | [] => some [last]
  | c :: r =>
    if c = '0' ∨ c = '_' then afterZero? c r
    else if startsNumber c then some (c :: r)
    else if c = '.' then some (last :: c :: r)
    else none

/-- A numeral without the zeros in front of it. -/
def dropLeadingZeros? : List Char → Option (List Char)
  | '0' :: r => afterZero? '0' r
  | c :: r => if startsNumber c then some (c :: r) else none
  | [] => none

/-- A numeral without a fraction of one or more zeros. -/
def dropZeroFraction (cs : List Char) : List Char :=
  match Text.cut? '.' cs with
  | some (whole, fraction) => if fraction ≠ [] ∧ fraction.all (· = '0') then whole else cs
  | none => cs

/-- Whether two underscores follow one another. -/
def hasDoubleUnderscore : List Char → Bool
  | '_' :: '_' :: _ => true
  | _ :: r => hasDoubleUnderscore r
  | [] => false

/-- A numeral without underscores, if each of them stands between two other characters. -/
def ungroup (cs : List Char) : List Char :=
  if cs.head? = some '_' ∨ cs.getLast? = some '_' ∨ hasDoubleUnderscore cs then cs
  else cs.filter (· ≠ '_')

/-- What a text spells in the strict notation of integers: padding, one plus, leading zeros, a
fraction of zeros and underscores are dropped. -/
def strictNumeral? (cs : List Char) : Option (List Char) :=
  let body := match unpad cs with
    | '+' :: '-' :: _ => none
    | '+' :: r | r => some r
  (body.bind dropLeadingZeros?).map fun r => ungroup (dropZeroFraction r)

/-- The most digits that an integer may have. -/
def maxDigits : Nat := 4300

/-- The value of digits without zeros in front of them. -/
def naturalOfStrict (cs : List Char) : Check Int :=
  match cs with
  | ['0'] => .valid 0
  | c :: _ =>
    let digits := cs.takeWhile Text.isAsciiDigit
    if c = '0' ∨ digits = [] then .fault .unreadableInteger
    else if maxDigits < digits.length then .fault .tooManyDigits
    else if digits.length < cs.length then .fault .unreadableInteger
    else .valid (Text.ofDigitValues 10 (digits.map Text.asciiDigit))
  | [] => .fault .unreadableInteger

/-- An integer that a text spells. -/
def integerOfText (s : String) : Check Int :=
  match strictNumeral? s.toList with
  | some ('-' :: r) => (naturalOfStrict r).map (- ·)
  | some r => naturalOfStrict r
  | none => .fault .unreadableInteger

/-- An integer of a number without fraction, below the limits of a machine word. -/
def integerOfNumber (x : Binary64) : Check Int :=
  if !x.isFinite then .fault .notFinite
  else
    match x.toInt? with
    | none => .fault .fractional
    | some n =>
      -- the most negative machine integer counts as too large
      if -9223372036854775808 < n ∧ n < 9223372036854775808 then .valid n
      else .fault .tooManyDigits

def asInteger : Value → Check Int
  | .int n => .valid n
  | .bool b => .valid (if b then 1 else 0)
  | .float x => integerOfNumber x
  | .text s => if Text.hasHalf s then .fault .notUnicode else integerOfText s
  | .bytes bs =>
    match String.fromUTF8? ⟨bs.toArray⟩ with
    | some s => integerOfText s
    | none => .fault .unreadableInteger
  | _ => .fault .notInteger

/-- An integer that is not negative. -/
def asCount (v : Value) : Check Int :=
  (asInteger v).andThen fun n => if n < 0 then .fault .negative else .valid n

end EchoWatch.Settings
