/-!
# The calendar

Dates of the proleptic Gregorian calendar from the first of January of year one on. Days are
counted from zero at that date, so that a date and its number determine one another.
-/

namespace EchoWatch.Calendar

structure Date where
  year : Nat
  month : Nat
  day : Nat
  deriving DecidableEq, Inhabited, Repr

/-- A leap year has a twenty-ninth of February. -/
def isLeap (year : Nat) : Bool :=
  year % 4 = 0 && (year % 100 ≠ 0 || year % 400 = 0)

/-- The days of a month; months outside one to twelve have none. -/
def daysInMonth (year month : Nat) : Nat :=
  match month with
  | 1 | 3 | 5 | 7 | 8 | 10 | 12 => 31
  | 4 | 6 | 9 | 11 => 30
  | 2 => if isLeap year then 29 else 28
  | _ => 0

/-- The days before the first of January of a year. -/
def daysBeforeYear (year : Nat) : Nat :=
  let y := year - 1
  y * 365 + y / 4 - y / 100 + y / 400

/-- The days of a year before the first of a month. -/
def daysBeforeMonth (year month : Nat) : Nat :=
  (List.range (month - 1)).foldl (fun days m => days + daysInMonth year (m + 1)) 0

def Date.toDays (d : Date) : Nat :=
  daysBeforeYear d.year + daysBeforeMonth d.year d.month + (d.day - 1)

/-- The month and the day with a given number within a year, from a given month on. -/
def monthDay (year : Nat) : (month fuel rest : Nat) → Nat × Nat
  | month, 0, rest => (month, rest + 1)
  | month, fuel + 1, rest =>
    if rest < daysInMonth year month then (month, rest + 1)
    else monthDay year (month + 1) fuel (rest - daysInMonth year month)

/-- The year that holds a day, found by the cycles of four hundred, one hundred, four and one
years. The last day of a long cycle belongs to the cycle before. -/
def yearOf (days : Nat) : Nat :=
  let r400 := days % 146097
  let n100 := min (r400 / 36524) 3
  let r100 := r400 - n100 * 36524
  let n4 := r100 / 1461
  let r4 := r100 % 1461
  let n1 := min (r4 / 365) 3
  days / 146097 * 400 + n100 * 100 + n4 * 4 + n1 + 1

def Date.ofDays (days : Nat) : Date :=
  let year := yearOf days
  let (month, day) := monthDay year 1 11 (days - daysBeforeYear year)
  ⟨year, month, day⟩

end EchoWatch.Calendar
