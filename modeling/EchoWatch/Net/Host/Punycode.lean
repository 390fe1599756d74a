import EchoWatch.Number.Numeral
/-!
# Host names in ASCII

A label with characters beyond ASCII goes out in ASCII: first come its ASCII characters, then, from
the least code point to the greatest, where each other character goes. Places are counted from
the last one and written to the base of thirty-six, in digits whose limits follow the sizes of the
numbers before.
-/

namespace EchoWatch.Net.Host.Punycode

/-- A digit to the base of thirty-six: letters first. -/
def digit (n : Nat) : Char :=
  if n < 26 then Char.ofNat ('a'.toNat + n) else Char.ofNat ('0'.toNat + (n - 26))

/-- The limit below which a digit is the last one of its number. -/
def limit (weight bias : Nat) : Nat :=
  if weight ≤ bias then 1 else if bias + 26 ≤ weight then 26 else weight - bias

theorem limit_pos (weight bias : Nat) : 0 < limit weight bias := by
  unfold limit
  split
  · omega
  · split <;> omega

/-- The digits of a number, the least first. -/
def digits (bias weight n : Nat) : List Char :=
  let t := limit weight bias
  if n < t then [digit n]
  else digit (t + (n - t) % (36 - t)) :: digits bias (weight + 36) ((n - t) / (36 - t))
termination_by n
decreasing_by
  have hpos := limit_pos weight bias
  have hle : (n - limit weight bias) / (36 - limit weight bias) ≤ n - limit weight bias :=
    Nat.div_le_self _ _
  omega

/-- A number made small, and how much bias that is worth. -/
def reduced (bias n : Nat) : Nat × Nat :=
  if 455 < n then reduced (bias + 36) (n / 35) else (bias, n)
termination_by n
decreasing_by exact Nat.div_lt_self (by omega) (by decide)

/-- The bias for the number after the given one, when so many characters are placed. -/
def nextBias (n count : Nat) (first : Bool) : Nat :=
  let n := if first then n / 700 else n / 2
  let (bias, n) := reduced 0 (n + n / count)
  bias + 36 * n / (n + 38)

structure State where
  out : List Char
  /-- How far it is from the last place. -/
  distance : Nat
  bias : Nat
  /-- How many characters are placed. -/
  count : Nat
  deriving Repr

/-- Passes over a character of the text, or places it if it has the given code point. -/
def State.pass (plain point : Nat) (s : State) (c : Char) : State :=
  if c.toNat < point then { s with distance := s.distance + 1 }
  else if c.toNat = point then
    { out := s.out ++ digits s.bias 36 s.distance, distance := 0
      bias := nextBias s.distance (s.count + 1) (s.count = plain), count := s.count + 1 }
  else s

/-- Places the characters with the given code points, which all are greater than those done. -/
def place (cs : List Char) (plain : Nat) : (next : Nat) → List Nat → State → State
  | _, [], s => s
  | next, point :: points, s =>
    let s := { s with distance := s.distance + (point - next) * (s.count + 1) }
    let s := cs.foldl (State.pass plain point) s
    place cs plain (point + 1) points { s with distance := s.distance + 1 }

/-- The code points beyond ASCII in a text, each one once and in order. -/
def points (cs : List Char) : List Nat :=
  (((cs.filter fun c => 128 ≤ c.toNat).map Char.toNat).mergeSort).eraseDups

/-- A text in ASCII. -/
def encode (cs : List Char) : List Char :=
  let plain := cs.filter fun c => c.toNat < 128
  let placed := place cs plain.length 128 (points cs) ⟨[], 0, 72, plain.length⟩
  (if plain = [] then [] else plain ++ ['-']) ++ placed.out

end EchoWatch.Net.Host.Punycode
