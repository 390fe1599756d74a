import EchoWatch.Number.Numeral
import EchoWatch.Text.Digit
import EchoWatch.Text.Split
/-!
# Dotted quads

An IPv4 address is four numbers below 256 with points between them. A number has no leading zero
and only ASCII digits. `Quad.read?` and `Quad.write` go between a text and the 32-bit value.
-/

namespace EchoWatch.Net.Quad

/-- The value of one number of a quad. -/
def octet? (cs : List Char) : Option (Fin 256) :=
  if cs ≠ [] ∧ cs.all Text.isAsciiDigit ∧ cs.length ≤ 3 ∧ (cs = ['0'] ∨ cs.head? ≠ some '0') then
    let n := Text.ofDigitValues 10 (cs.map Text.asciiDigit)
    if h : n < 256 then some ⟨n, h⟩ else none
  else none

/-- The value of four bytes, the most significant first. -/
def ofOctets (a b c d : Fin 256) : Nat :=
  ((a * 256 + b) * 256 + c) * 256 + d

theorem ofOctets_lt (a b c d : Fin 256) : ofOctets a b c d < Nat.pow 2 32 := by
  rw [Nat.pow_eq]; unfold ofOctets; omega

/-- A 32-bit value read from a dotted quad. -/
def read? (cs : List Char) : Option (Fin (Nat.pow 2 32)) :=
  match (Text.split '.' cs).map octet? with
  | [some a, some b, some c, some d] => some ⟨ofOctets a b c d, ofOctets_lt a b c d⟩
  | _ => none

def write (n : Nat) : List Char :=
  Text.join ['.'] ([n / 16777216, n / 65536, n / 256, n].map fun k => Numeral.ofNat (k % 256))

end EchoWatch.Net.Quad
