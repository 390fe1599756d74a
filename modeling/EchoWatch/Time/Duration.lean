import EchoWatch.Number.Binary64
import EchoWatch.Number.Numeral
import EchoWatch.Text.Blank
import EchoWatch.Text.Digit
import EchoWatch.Text.Quoted
/-!
# Durations

A duration is written as a sequence of decimal numbers, each followed by a unit, with an optional
sign in front: `4s`, `1m30s`, `-250ms`. A bare `0` is zero. White space around the text and
decimal digits of every script are accepted.

Reading has two steps. `parts?` splits the text into its parts, and the parts are then summed from
left to right in double precision. `ofSeconds` turns the sum into whole microseconds: the whole
seconds count exactly, the fraction is rounded with a half going to the even microsecond.
-/

namespace EchoWatch

/-- A length of time in whole microseconds. -/
abbrev Micros := Int

namespace Duration

/-! ### Units and parts -/

inductive TimeUnit where
  | nanosecond | microsecond | millisecond | second | minute | hour
  deriving DecidableEq, Repr

/-- The length of a unit in seconds, as a double. -/
def TimeUnit.seconds : TimeUnit → Binary64
  | .nanosecond => .ofDecimal false 1 1 (-9)
  | .microsecond => .ofDecimal false 1 1 (-6)
  | .millisecond => .ofDecimal false 1 1 (-3)
  | .second => .ofInt 1
  | .minute => .ofInt 60
  | .hour => .ofInt 3600

/-- One number with its unit: all its digits, how many of them stand after the point, the unit. -/
structure Part where
  digits : List Nat
  places : Nat
  unit : TimeUnit
  deriving DecidableEq, Repr

/-- The length of a part in seconds: the number and the product are each rounded once. -/
def Part.seconds (p : Part) : Binary64 :=
  .ofDecimal false (Text.ofDigitValues 10 p.digits) p.digits.length (-p.places) * p.unit.seconds

/-! ### Reading -/

/-- The unit at the start of a text, and the rest. Milliseconds are tried before minutes. -/
def readUnit : List Char → Option (TimeUnit × List Char)
  | 'n' :: 's' :: r => some (.nanosecond, r)
  | 'u' :: 's' :: r => some (.microsecond, r)
  | '\u00b5' :: 's' :: r => some (.microsecond, r)
  | '\u03bc' :: 's' :: r => some (.microsecond, r)
  | 'm' :: 's' :: r => some (.millisecond, r)
  | 's' :: r => some (.second, r)
  | 'm' :: r => some (.minute, r)
  | 'h' :: r => some (.hour, r)
  | _ => none

/-- The digits at the start of a text. -/
def leadingDigits (cs : List Char) : List Char :=
  cs.takeWhile Text.isDigit

/-- A text without the digits at its start. -/
def afterDigits (cs : List Char) : List Char :=
  cs.dropWhile Text.isDigit

/-- The number at the start of a text: the digits before its point, those after it, and the rest.
A point needs a digit on one of its sides. -/
def readNumber (cs : List Char) : Option (List Char × List Char × List Char) :=
  match afterDigits cs with
  | '.' :: r =>
    if leadingDigits cs = [] ∧ leadingDigits r = [] then none
    else some (leadingDigits cs, leadingDigits r, afterDigits r)
  | r => if leadingDigits cs = [] then none else some (leadingDigits cs, [], r)

/-- The part at the start of a text, and the rest. -/
def readPart (cs : List Char) : Option (Part × List Char) :=
  match readNumber cs with
  | none => none
  | some (whole, fraction, r) =>
    match readUnit r with
    | none => none
    | some (u, rest) =>
      some (⟨(whole ++ fraction).filterMap Text.digitValue?, fraction.length, u⟩, rest)

theorem readUnit_length {cs r : List Char} {u : TimeUnit} (h : readUnit cs = some (u, r)) :
    r.length < cs.length := by
  unfold readUnit at h
  split at h <;> simp only [Option.some.injEq, Prod.mk.injEq, reduceCtorEq] at h
  all_goals (obtain ⟨-, rfl⟩ := h; simp only [List.length_cons]; omega)

theorem length_afterDigits (cs : List Char) : (afterDigits cs).length ≤ cs.length :=
  (List.dropWhile_sublist _).length_le

theorem readNumber_length {cs a b r : List Char} (h : readNumber cs = some (a, b, r)) :
    r.length ≤ cs.length := by
  have hc := length_afterDigits cs
  unfold readNumber at h
  split at h
  · next r' hr =>
    have := length_afterDigits r'
    rw [hr] at hc; simp only [List.length_cons] at hc
    split at h
    · cases h
    · simp only [Option.some.injEq, Prod.mk.injEq] at h
      obtain ⟨-, -, rfl⟩ := h; omega
  · split at h
    · cases h
    · simp only [Option.some.injEq, Prod.mk.injEq] at h
      obtain ⟨-, -, rfl⟩ := h; exact hc

/-- A part takes at least one character. -/
theorem readPart_length {cs r : List Char} {p : Part} (h : readPart cs = some (p, r)) :
    r.length < cs.length := by
  unfold readPart at h
  split at h
  · cases h
  · next hn =>
    split at h
    · cases h
    · next hu =>
      simp only [Option.some.injEq, Prod.mk.injEq] at h
      obtain ⟨-, rfl⟩ := h
      exact Nat.lt_of_lt_of_le (readUnit_length hu) (readNumber_length hn)

/-- All parts of a text; nothing may be left over. -/
def parts? (cs : List Char) : Option (List Part) :=
  match cs with
  | [] => some []
  | c :: r =>
    match _h : readPart (c :: r) with
    | none => none
    | some (p, rest) => (parts? rest).map (p :: ·)
termination_by cs.length
decreasing_by
  have := readPart_length _h
  simpa using this

/-! ### From seconds to microseconds -/

/-- Why a number of seconds is no duration. -/
inductive Overflow where
  | infinite
  /-- The whole days are a machine integer, but more than a duration may have. -/
  | tooManyDays (days : Int)
  | tooLarge
  deriving DecidableEq, Repr

def Overflow.message : Overflow → String
  | .infinite => "cannot convert float infinity to integer"
  | .tooManyDays days =>
    let count := String.ofList (Numeral.ofInt days)
    s!"days={count}; must have magnitude <= 999999999"
  | .tooLarge => "Python int too large to convert to C int"

/-- Microseconds in a day. -/
def dayMicros : Int := 86400000000

/-- The largest number of whole days, in either direction. -/
def maxDays : Int := 999999999

/-- A number of microseconds whose whole days, rounded down, are within bounds. -/
def ofMicros (us : Int) : Except Overflow Micros :=
  let days := us / dayMicros
  if -maxDays ≤ days ∧ days ≤ maxDays then .ok us
  else if -2147483648 ≤ days ∧ days < 2147483648 then .error (.tooManyDays days)
  else .error .tooLarge

/-- The microseconds of a number of seconds. The whole seconds count exactly; the product of the
fraction with a million is rounded to a double and then to an integer, a half to the even one. -/
def ofSeconds : Binary64 → Except Overflow Micros
  | .finite negative units =>
    let whole := units / Binary64.one
    let product := Binary64.roundUnits (units % Binary64.one * 1000000) 1
    let magnitude : Int := (whole * 1000000 + Binary64.divEven product Binary64.one : Nat)
    ofMicros (if negative then -magnitude else magnitude)
  | _ => .error .infinite

/-- A length of time in seconds, rounded once. -/
def toSeconds (us : Micros) : Binary64 :=
  .ofRatio us 1000000

/-! ### Parsing -/

inductive ParseError where
  | empty
  | malformed (text : String)
  | overflow (cause : Overflow)
  deriving DecidableEq, Repr

def ParseError.message : ParseError → String
  | .empty => "empty duration"
  | .malformed text => "invalid duration: " ++ Text.quoted text
  | .overflow cause => cause.message

/-- A text's sign, and what follows it. -/
def splitSign : List Char → Bool × List Char
  | '-' :: r => (true, r)
  | '+' :: r => (false, r)
  | r => (false, r)

/-- The sum of the parts in seconds, from left to right. -/
def total (ps : List Part) : Binary64 :=
  ps.foldl (fun sum p => sum + p.seconds) (.finite false 0)

def parse (text : String) : Except ParseError Micros :=
  let trimmed := Text.trim text.toList
  let (negative, body) := splitSign trimmed
  if trimmed = [] then .error .empty
  else if body = ['0'] then .ok 0
  else
    match parts? body with
    | none | some [] => .error (.malformed text)
    | some ps =>
      let sum := total ps
      (ofSeconds (if negative then -sum else sum)).mapError .overflow

end Duration
end EchoWatch
