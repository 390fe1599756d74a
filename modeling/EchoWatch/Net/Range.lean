import EchoWatch.Net.Address
import EchoWatch.Text.Blank
/-!
# Ranges of addresses

A range is the set of all addresses that agree with a base address in their first `length` bits.
It is written as an address and a length with a slash between them. The address may have bits set
beyond the length, which are cleared; an IPv4 length may also be written as a mask of ones and
zeros, or as the inverse of one.
-/

namespace EchoWatch.Net

structure Range where
  base : Address
  length : Nat
  length_le : length ≤ base.family.width
  aligned : base.value % Nat.pow 2 (base.family.width - length) = 0
  deriving DecidableEq, Repr

namespace Range

/-- The range of the given length around an address. The zone stays only when the address is the
base as it stands. -/
def around (a : Address) (length : Nat) (h : length ≤ a.family.width) : Range :=
  let step := Nat.pow 2 (a.family.width - length)
  if ha : a.value % step = 0 then
    { base := a, length := length, length_le := h, aligned := ha }
  else
    { base :=
        { family := a.family, value := a.value / step * step,
          value_lt := Nat.lt_of_le_of_lt (Nat.div_mul_le_self _ _) a.value_lt }
      length := length
      length_le := h
      aligned := Nat.mul_mod_left _ _ }

/-- Whether an address lies in a range: the families agree, and so do the first `length` bits. -/
def contains (r : Range) (a : Address) : Bool :=
  let free := r.base.family.width - r.length
  a.family = r.base.family && a.value >>> free <<< free = r.base.value

/-- The length of a mask: ones first, then zeros. -/
def maskLength? (n : Nat) : Option Nat :=
  (List.range 33).find? fun length => n = Nat.pow 2 32 - Nat.pow 2 (32 - length)

/-- The length that a dotted mask stands for, as a mask or else as the inverse of one. -/
def ofMask? (cs : List Char) : Option Nat :=
  match Quad.read? cs with
  | none => none
  | some n =>
    -- zero is a mask of length zero before it is an inverse mask
    match maskLength? n with
    | some length => some length
    | none => maskLength? (Nat.pow 2 32 - 1 - n)

/-- A length of at most `width`, written with ASCII digits. -/
def decimalLength? (width : Nat) (cs : List Char) : Option Nat :=
  if cs ≠ [] ∧ cs.all Text.isAsciiDigit ∧ cs.length ≤ Numeral.maxDigits then
    let n := Text.ofDigitValues 10 (cs.map Text.asciiDigit)
    if n ≤ width then some n else none
  else none

/-- The length after the slash. -/
def readLength? (family : Family) (cs : List Char) : Option Nat :=
  match decimalLength? family.width cs, family with
  | some n, _ => some n
  | none, .v4 => ofMask? cs
  | none, .v6 => none

/-- Reads a range: exactly one slash, an address before it and a length after it. -/
def read? (cs : List Char) : Option Range :=
  match Text.split '/' cs with
  | [body, tail] =>
    match Address.read? body with
    | none => none
    | some a =>
      match readLength? a.family tail with
      | none => none
      | some length => if h : length ≤ a.family.width then some (around a length h) else none
  | _ => none

def write (r : Range) : List Char :=
  r.base.write ++ '/' :: Numeral.ofNat r.length

def text (r : Range) : String :=
  String.ofList r.write

/-! ### The ranges of a configuration -/

inductive ParseError where
  | missingLength
  | malformed (trimmed : String)
  deriving DecidableEq, Repr

def ParseError.message : ParseError → String
  | .missingLength => "missing prefix length"
  | .malformed trimmed => Text.quoted trimmed ++ " does not appear to be an IPv4 or IPv6 network"

/-- Reads a range with white space around it. The length is never left out. -/
def parse (text : String) : Except ParseError Range :=
  let trimmed := Text.trim text.toList
  if '/' ∉ text.toList then .error .missingLength
  else
    match read? trimmed with
    | some r => .ok r
    | none => .error (.malformed (String.ofList trimmed))

end Range
end EchoWatch.Net
