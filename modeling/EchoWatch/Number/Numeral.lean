/-!
# Numerals

Decimal numerals of natural numbers and integers as lists of characters, without leading zeros,
and numerals padded with zeros to a width.

Long numerals take long to read and to write. So there is a most number of digits: `isShort` tells
the numbers that keep to it, and `TooLong` is the error of those that do not.
-/

namespace EchoWatch.Numeral

def digit (d : Nat) : Char :=
  Char.ofNat ('0'.toNat + d)

def ofNat (n : Nat) : List Char :=
  if n < 10 then [digit n] else ofNat (n / 10) ++ [digit (n % 10)]
termination_by n

/-- The decimal numeral of an integer, with a minus sign below zero. -/
def ofInt : Int → List Char
  | .ofNat n => ofNat n
  | .negSucc n => '-' :: ofNat (n + 1)

/-- The last `width` decimal digits of a number. -/
def padded : (width n : Nat) → List Char
  | 0, _ => []
  | width + 1, n => padded width (n / 10) ++ [digit (n % 10)]

/-- The most digits with which numbers are read and written. -/
def maxDigits : Nat := 4300

/-- Whether a number can be written with the digits that it may have. The sign does not count. -/
def isShort (n : Int) : Bool :=
  n.natAbs < Nat.pow 10 maxDigits

/-- A number has too many digits to be written. -/
inductive TooLong where
  | tooLong
  deriving DecidableEq, Repr

def TooLong.message : TooLong → String
  | .tooLong =>
    let limit := String.ofList (Numeral.ofNat maxDigits)
    s!"Exceeds the limit ({limit} digits) for integer string conversion; "
      ++ "use sys.set_int_max_str_digits() to increase the limit"

/-- The numeral of a number, if it may have as many digits. -/
def written (n : Int) : Except TooLong String :=
  if isShort n then .ok (String.ofList (ofInt n)) else .error .tooLong

theorem ofNat_ne_nil (n : Nat) : ofNat n ≠ [] := by
  unfold ofNat; split <;> simp

end EchoWatch.Numeral
