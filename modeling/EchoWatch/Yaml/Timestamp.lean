import EchoWatch.Text.Digit
/-!
# Timestamps

A date `2024-01-31`, or a date with a time of day and perhaps a zone: `2024-1-31 8:05:00.5 +01:00`.
`Timestamp.read?` is the grammar; whether the numbers are a day of the calendar is decided later.
-/

namespace EchoWatch.Yaml

/-- The zone of a time of day, in minutes east of Greenwich. -/
abbrev Zone := Int

/-- A time of day as it was written. -/
structure TimeOfDay where
  hour : Nat
  minute : Nat
  second : Nat
  micro : Nat
  zone : Option Zone
  deriving DecidableEq, Repr

/-- A timestamp as it was written. A padded one has two digits for its month and its day. -/
structure Timestamp where
  year : Nat
  month : Nat
  day : Nat
  padded : Bool
  time : Option TimeOfDay
  deriving DecidableEq, Repr

namespace Timestamp

/-- The number that ASCII digits spell. -/
def number (ds : List Char) : Nat :=
  Text.ofDigitValues 10 (ds.map Text.asciiDigit)

/-- A given number of digits. -/
def exactly? (n : Nat) (cs : List Char) : Option (Nat × List Char) :=
  let ds := cs.take n
  if ds.length = n ∧ ds.all Text.isAsciiDigit then some (number ds, cs.drop n) else none

/-- One or two digits, and whether there are two. -/
def oneOrTwo? (cs : List Char) : Option ((Nat × Bool) × List Char) :=
  match exactly? 2 cs with
  | some (n, r) => some ((n, true), r)
  | none => (exactly? 1 cs).map fun (n, r) => ((n, false), r)

/-- The rest after a given character. -/
def after? (c : Char) : List Char → Option (List Char)
  | d :: r => if d = c then some r else none
  | [] => none

/-- A space or a tab. -/
def isBlank (c : Char) : Bool :=
  c = ' ' || c = '\t'

/-- Microseconds from the digits after the point; those after the sixth do not count. -/
def micros (ds : List Char) : Nat :=
  let six := ds.take 6
  number six * Nat.pow 10 (6 - six.length)

/-- The zone at the end of a timestamp. -/
def zone? (cs : List Char) : Option (Option Zone) :=
  match cs with
  | [] => some none
  | _ =>
    match cs.dropWhile isBlank with
    | ['Z'] => some (some 0)
    | sign :: r =>
      if sign = '+' ∨ sign = '-' then do
        let ((hours, _), r) ← oneOrTwo? r
        let (minutes, r) ← match after? ':' r with
          | some r => exactly? 2 r
          | none => some (0, r)
        let east : Int := 60 * hours + minutes
        if r = [] then some (some (if sign = '-' then -east else east)) else none
      else none
    | [] => none

/-- The time of day, up to the end. -/
def timeOfDay? (cs : List Char) : Option TimeOfDay := do
  let ((hour, _), r) ← oneOrTwo? cs
  let (minute, r) ← exactly? 2 (← after? ':' r)
  let (second, r) ← exactly? 2 (← after? ':' r)
  let fraction := (after? '.' r).getD []
  let r := (after? '.' r).elim r fun r => r.dropWhile Text.isAsciiDigit
  let zone ← zone? r
  some ⟨hour, minute, second, micros (fraction.takeWhile Text.isAsciiDigit), zone⟩

/-- What follows a date: nothing, or a time of day after the letter T or after blanks. -/
def time? : List Char → Option (Option TimeOfDay)
  | [] => some none
  | c :: r =>
    if c = 'T' ∨ c = 't' then (timeOfDay? r).map some
    else if isBlank c then (timeOfDay? (r.dropWhile isBlank)).map some
    else none

/-- Reads a timestamp; a line feed may end it. -/
def read? (text : List Char) : Option Timestamp := do
  let cs := if text.getLast? = some '\n' then text.dropLast else text
  let (year, r) ← exactly? 4 cs
  let ((month, wideMonth), r) ← oneOrTwo? (← after? '-' r)
  let ((day, wideDay), r) ← oneOrTwo? (← after? '-' r)
  let time ← time? r
  some ⟨year, month, day, wideMonth && wideDay, time⟩

/-- Whether a plain scalar with this text is taken for a timestamp: a date alone must be padded. -/
def isEvident (cs : List Char) : Bool :=
  (read? cs).any fun t => t.padded || t.time.isSome

end Timestamp
end EchoWatch.Yaml
