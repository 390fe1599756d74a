import EchoWatch.Number.Binary64
import EchoWatch.Number.Numeral
import EchoWatch.Time.Calendar
import EchoWatch.Time.Duration
import EchoWatch.Text.Split
/-!
# Moments

A moment is what a clock on the wall shows, to the microsecond, and the zone that the clock is in.
Without a zone it is floating: two floating moments can be subtracted from one another, and so can
two with zones, but not one of each.

A zone is known by its offset from UTC at the moment in question. Zones that change their offset
over the year have a name as well, because two moments of one such zone are subtracted as its clock
shows them, while all others are brought to UTC first.

`iso` writes a moment for machines and `pretty` for people. `epochSeconds` counts whole seconds
since the start of 1970 by way of a double, as webhooks expect them.
-/

namespace EchoWatch

/-- A zone at a moment. -/
structure Moment.Zone where
  /-- How far its clocks are ahead of UTC, in microseconds. -/
  offset : Int
  /-- What a zone goes by whose offset changes; one with a fixed offset has no name. -/
  name : Option String
  deriving DecidableEq, Inhabited, Repr

/-- A reading of a wall clock in microseconds since the start of year one, and its zone. -/
structure Moment where
  wall : Nat
  zone : Option Moment.Zone
  deriving DecidableEq, Inhabited, Repr

namespace Moment

/-- The zone with a fixed offset, in microseconds. -/
def Zone.fixed (offset : Int) : Zone :=
  ⟨offset, none⟩

def Zone.utc : Zone :=
  .fixed 0

def dayMicros : Nat := 86400000000

/-- The first reading after the end of year 9999. -/
def limit : Nat := 3652059 * dayMicros

/-- The reading of the wall clock at the start of 1970. -/
def epochWall : Nat := 719162 * dayMicros

def ofFields (date : Calendar.Date) (hour minute second micro : Nat) (zone : Option Zone) :
    Moment :=
  { wall := date.toDays * dayMicros + ((hour * 60 + minute) * 60 + second) * 1000000 + micro
    zone := zone }

/-- How far the clock is ahead of UTC, in microseconds. A floating moment counts as it stands. -/
def offset (m : Moment) : Int :=
  m.zone.elim 0 Zone.offset

def date (m : Moment) : Calendar.Date :=
  .ofDays (m.wall / dayMicros)

def secondOfDay (m : Moment) : Nat :=
  m.wall % dayMicros / 1000000

def hour (m : Moment) : Nat := m.secondOfDay / 3600
def minute (m : Moment) : Nat := m.secondOfDay / 60 % 60
def second (m : Moment) : Nat := m.secondOfDay % 60
def micro (m : Moment) : Nat := m.wall % 1000000

/-! ### Arithmetic -/

/-- The reading in UTC, in microseconds since the start of year one. -/
def utc (m : Moment) : Int :=
  m.wall - m.offset

/-- Both moments are readings of the clock of one named zone. -/
def sharesClock (m n : Moment) : Bool :=
  (m.zone.bind Zone.name).isSome && m.zone.bind Zone.name = n.zone.bind Zone.name

/-- The time from `earlier` to `later`, where it can be computed. -/
def elapsed (later earlier : Moment) : Micros :=
  if later.sharesClock earlier then later.wall - earlier.wall else later.utc - earlier.utc

/-- The time from `earlier` to `later`, unless just one of them has a zone. -/
def elapsed? (later earlier : Moment) : Option Micros :=
  if later.zone.isSome = earlier.zone.isSome then some (later.elapsed earlier) else none

/-- A moment moved along the wall clock, within the years one to 9999. The zone is taken to have the
same offset there. -/
def shift? (m : Moment) (us : Micros) : Option Moment :=
  let wall := (m.wall : Int) + us
  if 0 ≤ wall ∧ wall < limit then some { m with wall := wall.toNat } else none

/-! ### Text -/

/-- An offset: sign, hours, minutes and, when there are any, seconds and microseconds. -/
def offsetText (sep : List Char) (offset : Int) : List Char :=
  let micros := offset.natAbs % 1000000
  let n := offset.natAbs / 1000000
  let fraction := if micros = 0 then [] else '.' :: Numeral.padded 6 micros
  let seconds :=
    if n % 60 = 0 ∧ micros = 0 then [] else sep ++ Numeral.padded 2 (n % 60) ++ fraction
  (if offset < 0 then '-' else '+') :: Numeral.padded 2 (n / 3600) ++ sep
    ++ Numeral.padded 2 (n / 60 % 60) ++ seconds

/-- The offset of a moment, if it has a zone. -/
def zoneText (sep : List Char) (m : Moment) : List Char :=
  (m.zone.map fun z => offsetText sep z.offset).getD []

/-- Two-digit numbers with a separator between them. -/
def pairs (sep : Char) (ns : List Nat) : List Char :=
  Text.join [sep] (ns.map (Numeral.padded 2))

/-- The machine readable form: `2024-01-01T12:00:00.250000+00:00`. Microseconds are left out when
there are none. -/
def iso (m : Moment) : String :=
  let d := m.date
  let fraction := if m.micro = 0 then [] else '.' :: Numeral.padded 6 m.micro
  String.ofList (Numeral.padded 4 d.year ++ '-' :: pairs '-' [d.month, d.day]
    ++ 'T' :: pairs ':' [m.hour, m.minute, m.second] ++ fraction
    ++ m.zoneText [':'])

/-- The hour on a dial of twelve. -/
def dialHour (hour : Nat) : Nat :=
  if hour % 12 = 0 then 12 else hour % 12

/-- The form shown to people: `2024-01-01 12:00:00 PM +0000`. The year is not padded. -/
def pretty (m : Moment) : String :=
  let d := m.date
  String.ofList (Numeral.ofNat d.year ++ '-' :: pairs '-' [d.month, d.day]
    ++ ' ' :: pairs ':' [dialHour m.hour, m.minute, m.second]
    ++ ' ' :: (if m.hour < 12 then ['A', 'M'] else ['P', 'M'])
    ++ ' ' :: m.zoneText [])

/-- The form of log lines: `2024-01-01 12:00:00`. -/
def stamp (m : Moment) : String :=
  let d := m.date
  String.ofList (Numeral.ofNat d.year ++ '-' :: pairs '-' [d.month, d.day]
    ++ ' ' :: pairs ':' [m.hour, m.minute, m.second])

/-! ### Seconds since 1970 -/

/-- Seconds since the start of 1970, as a double. With a zone the exact quotient is rounded
once. A floating moment is taken as UTC; its whole seconds and its fraction are rounded apart. -/
def timestamp (m : Moment) : Binary64 :=
  match m.zone with
  | some _ => .ofRatio (m.utc - epochWall) 1000000
  | none =>
    let seconds : Int := (m.wall : Int) / 1000000 - epochWall / 1000000
    Binary64.ofInt seconds + .ofRatio m.micro 1000000

/-- Whole seconds since the start of 1970, cut toward zero. A floating moment on the first day of
year one has none, because its neighbourhood leaves the calendar. -/
def epochSeconds? (m : Moment) : Option Int :=
  if m.zone.isNone && m.wall < dayMicros then none else m.timestamp.truncate?

/-- How a moment without whole seconds is refused. -/
def outOfCalendar : String :=
  "year 0 is out of range"

end Moment
end EchoWatch
