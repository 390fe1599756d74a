import EchoWatch.Number.Binary64
import EchoWatch.Number.Numeral
/-!
# The shortest text of a double

Of all decimals that read back as a given double the shortest one is written, and of two equally
short ones the nearer. `shortest` finds its digits and its decimal exponent in exact arithmetic:
on the grid of one digit, two digits and so on up to seventeen it tries the two neighbours of the
value, and the first grid with a neighbour inside the rounding interval wins.

`Binary64.text` writes the digits positionally from `0.0001` up to below `10 ^ 16`, with a point
in every case, and with an exponent of at least two digits elsewhere.
-/

namespace EchoWatch.Binary64

def digitCount (n : Nat) : Nat :=
  (Numeral.ofNat n).length

/-- The decimal exponent of the leading digit of a positive number of units. -/
def leadingExponent (units : Nat) : Int :=
  (digitCount (units * Nat.pow 10 400 / one) : Int) - 401

/-- Four times the distance from a positive double to the ends of the interval of reals that
round to it, in units: below, above. -/
def margins (units : Nat) : Nat × Nat :=
  let step := Nat.pow 2 (units.log2 - 52)
  (if units = Nat.pow 2 52 * step ∧ 1 < step then step else 2 * step, 2 * step)

/-- Whether `digits * 10 ^ exponent` rounds to the given positive number of units. -/
def roundsTo (units digits : Nat) (exponent : Int) : Bool :=
  let (below, above) := margins units
  let closed := units / Nat.pow 2 (units.log2 - 52) % 2 = 0
  let scale := Nat.pow 10 (-exponent).toNat
  let value := 4 * digits * Nat.pow 10 exponent.toNat * one
  let low := (4 * units - below) * scale
  let high := (4 * units + above) * scale
  if closed then low ≤ value && value ≤ high else low < value && value < high

/-- The decimal of `count` digits that reads back as the given units, if there is one. -/
def onGrid? (units count : Nat) : Option (Nat × Int) :=
  let exponent := leadingExponent units - count + 1
  let num := units * Nat.pow 10 (-exponent).toNat
  let den := one * Nat.pow 10 exponent.toNat
  let lower := num / den
  match roundsTo units lower exponent, roundsTo units (lower + 1) exponent with
  | true, true => some (divEven num den, exponent)
  | true, false => some (lower, exponent)
  | false, true => some (lower + 1, exponent)
  | false, false => none

/-- A number without its trailing zeros, and how many were dropped. -/
def dropZeros (n : Nat) : Nat × Nat :=
  if _h : 0 < n ∧ n % 10 = 0 then
    let (m, k) := dropZeros (n / 10)
    (m, k + 1)
  else (n, 0)
termination_by n
decreasing_by omega

/-- The digits and the exponent of the shortest decimal that reads back as the given positive
number of units; seventeen digits always do. -/
def shortest (units : Nat) : Nat × Int :=
  let (digits, exponent) := ((List.range 17).findSome? fun k => onGrid? units (k + 1)).getD (0, 0)
  let (m, k) := dropZeros digits
  (m, exponent + k)

/-- An exponent: its mark, its sign and at least two digits. -/
def exponentText (exponent : Int) : List Char :=
  let size := Numeral.ofNat exponent.natAbs
  'e' :: (if exponent < 0 then '-' else '+') :: (if size.length < 2 then '0' :: size else size)

/-- The text of a positive value: digits, a point where the value needs one, and an exponent when
the leading digit stands outside the positional range. -/
def magnitudeText (units : Nat) : List Char :=
  let (m, exponent) := shortest units
  let digits := Numeral.ofNat m
  let lead := exponent + digits.length - 1
  if -4 ≤ lead ∧ lead < 16 then
    if 0 ≤ exponent then digits ++ List.replicate exponent.toNat '0' ++ ['.', '0']
    else if 0 ≤ lead then
      digits.take (lead.toNat + 1) ++ '.' :: digits.drop (lead.toNat + 1)
    else '0' :: '.' :: List.replicate (-lead - 1).toNat '0' ++ digits
  else
    let fraction := if digits.length = 1 then [] else '.' :: digits.drop 1
    digits.take 1 ++ fraction ++ exponentText lead

/-- The shortest text that reads back. -/
def text : Binary64 → String
  | finite s u =>
    let body := if u = 0 then ['0', '.', '0'] else magnitudeText u
    String.ofList (if s then '-' :: body else body)
  | infinite s => if s then "-inf" else "inf"
  | nan _ => "nan"

end EchoWatch.Binary64
