import EchoWatch.Number.Shortest
/-!
# Doubles written to a number of digits

A double is rounded, from its exact value and with a half to the even digit, to a number of places
after the point (`fixedText`), to a number of significant digits with an exponent
(`scientificText`), or to a number of significant digits in whichever of the two ways is plainer
(`generalText`). The sign is written by the caller.
-/

namespace EchoWatch.Binary64

/-- How often `10 ^ -places` goes into a number of units, rounded. -/
def scaled (units : Nat) (places : Int) : Nat :=
  divEven (units * Nat.pow 10 places.toNat) (one * Nat.pow 10 (-places).toNat)

/-- A numeral with a point before its last `places` digits and at least one digit before the point.
Without places there is a point only if it is asked for. -/
def pointed (keepsPoint : Bool) (n places : Nat) : List Char :=
  let digits := Numeral.ofNat n
  let digits := List.replicate (places + 1 - digits.length) '0' ++ digits
  let whole := digits.take (digits.length - places)
  if places = 0 ∧ keepsPoint = false then whole
  else whole ++ '.' :: digits.drop (digits.length - places)

/-- A text with a point, without the zeros at its end and without a point that stands last. -/
def trimmed (cs : List Char) : List Char :=
  if cs.contains '.' then
    let short := cs.reverse.dropWhile (· = '0')
    (if short.head? = some '.' then short.drop 1 else short).reverse
  else cs

/-- The first `count` significant digits of a number of units, rounded, and the decimal exponent of
the first of them. Zero has the exponent zero. -/
def significant (units count : Nat) : Nat × Int :=
  if units = 0 then (0, 0)
  else
    let lead := leadingExponent units
    let n := scaled units (count - 1 - lead)
    -- rounding up to the next power of ten leaves one digit too many, a zero
    if count < digitCount n then (n / 10, lead + 1) else (n, lead)

/-- A number of units with `places` digits after the point. -/
def fixedText (keepsPoint : Bool) (units places : Nat) : List Char :=
  pointed keepsPoint (scaled units places) places

/-- A number of units with one digit before the point, `places` after it, and an exponent. -/
def scientificText (keepsPoint : Bool) (units places : Nat) : List Char :=
  let (n, lead) := significant units (places + 1)
  pointed keepsPoint n places ++ exponentText lead

/-- A number of units to `count` significant digits: positional from `0.0001` up to where all the
digits stand before the point, with an exponent elsewhere. Zeros at the end are left out unless the
point is to be kept. -/
def generalText (keepsPoint : Bool) (units count : Nat) : List Char :=
  let count := max 1 count
  let (n, lead) := significant units count
  let trim := if keepsPoint then id else trimmed
  if -4 ≤ lead ∧ lead < count then trim (pointed keepsPoint n ((count : Int) - 1 - lead).toNat)
  else trim (pointed keepsPoint n (count - 1)) ++ exponentText lead

end EchoWatch.Binary64
