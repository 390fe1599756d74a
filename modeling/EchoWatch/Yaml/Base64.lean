import EchoWatch.Text.Digit
/-!
# Bytes in letters

Four letters carry three bytes. Characters that are none of the sixty-four are passed over, and an
equals sign ends the bytes where a group may end.
-/

namespace EchoWatch.Yaml.Base64

/-- What a character carries. -/
def sextet? (c : Char) : Option Nat :=
  if 'A' ≤ c ∧ c ≤ 'Z' then some (c.toNat - 'A'.toNat)
  else if 'a' ≤ c ∧ c ≤ 'z' then some (c.toNat - 'a'.toNat + 26)
  else if '0' ≤ c ∧ c ≤ '9' then some (c.toNat - '0'.toNat + 52)
  else if c = '+' then some 62
  else if c = '/' then some 63
  else none

/-- Reads the rest of a text. The group in progress has `place` letters, of which `left` is still
to be written, and `pads` equals signs have come since its last letter. -/
def readFrom (place left pads : Nat) : List Char → Option (List UInt8)
  | [] => if place = 0 then some [] else none
  | c :: r =>
    if c = '=' then
      if 2 ≤ place ∧ 4 ≤ place + (pads + 1) then some []
      else readFrom place left (if 2 ≤ place then pads + 1 else pads) r
    else
      match sextet? c with
      | none => readFrom place left pads r
      | some n =>
        match place with
        | 0 => readFrom 1 n 0 r
        | 1 => (readFrom 2 (n % 16) 0 r).map (UInt8.ofNat (left * 4 + n / 16) :: ·)
        | 2 => (readFrom 3 (n % 4) 0 r).map (UInt8.ofNat (left * 16 + n / 4) :: ·)
        | _ => (readFrom 0 0 0 r).map (UInt8.ofNat (left * 64 + n) :: ·)

/-- The bytes of a text in ASCII. -/
def read? (cs : List Char) : Option (List UInt8) :=
  if cs.all fun c => c.toNat < 128 then readFrom 0 0 0 cs else none

end EchoWatch.Yaml.Base64
