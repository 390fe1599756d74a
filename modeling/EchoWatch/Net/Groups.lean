import EchoWatch.Net.Quad
import EchoWatch.Text.Quoted
/-!
# Groups of hexadecimal digits

An IPv6 address is eight groups of up to four hexadecimal digits with colons between them. A
double colon stands for one run of zero groups, at most once; the last two groups may be written as
a dotted quad. Writing takes the first of the longest runs of at least two zero groups for the
double colon and uses no leading zeros.
-/

namespace EchoWatch.Net.Groups

def group? (cs : List Char) : Option (Fin 65536) :=
  if cs ≠ [] ∧ cs.length ≤ 4 then
    match cs.mapM Text.hexValue? with
    | some ds =>
      let n := Text.ofDigitValues 16 ds
      if h : n < 65536 then some ⟨n, h⟩ else none
    | none => none
  else none

/-- The two groups of a dotted quad. -/
def quadGroups (n : Fin (Nat.pow 2 32)) : List (Fin 65536) :=
  [⟨n / 65536, by have h : n.val < 4294967296 := n.isLt; omega⟩, ⟨n % 65536, by omega⟩]

/-- The groups of pieces between colons; the last piece may be a dotted quad. -/
def ofPieces? : List (List Char) → Option (List (Fin 65536))
  | [] => some []
  | [piece] =>
    if '.' ∈ piece then (Quad.read? piece).map quadGroups
    else (group? piece).map fun g => [g]
  | piece :: pieces =>
    match group? piece, ofPieces? pieces with
    | some g, some gs => some (g :: gs)
    | _, _ => none

/-- The groups before a double colon: hexadecimal groups only, or nothing. -/
def leading? (cs : List Char) : Option (List (Fin 65536)) :=
  if cs = [] then some [] else (Text.split ':' cs).mapM group?

/-- The groups after a double colon, or nothing. -/
def trailing? (cs : List Char) : Option (List (Fin 65536)) :=
  if cs = [] then some [] else ofPieces? (Text.split ':' cs)

/-- What stands before the first double colon, and what stands after it. -/
def cutDouble? : List Char → Option (List Char × List Char)
  | [] => none
  | ':' :: ':' :: r => some ([], r)
  | c :: r => (cutDouble? r).map fun (a, b) => (c :: a, b)

/-- The groups of an address; a double colon is filled up with zero groups. -/
def read? (cs : List Char) : Option (List (Fin 65536)) :=
  match cutDouble? cs with
  | none => ofPieces? (Text.split ':' cs)
  | some (before, after) =>
    match leading? before, trailing? after with
    | some hi, some lo =>
      if hi.length + lo.length < 8 then
        some (hi ++ List.replicate (8 - (hi.length + lo.length)) 0 ++ lo)
      else none
    | _, _ => none

/-- The number that groups spell, the most significant first. -/
def value (gs : List (Fin 65536)) : Nat :=
  gs.foldl (fun n (g : Fin 65536) => n * 65536 + g.val) 0

theorem foldl_lt (gs : List (Fin 65536)) (n : Nat) :
    gs.foldl (fun n (g : Fin 65536) => n * 65536 + g.val) n
      < (n + 1) * Nat.pow 65536 gs.length := by
  induction gs generalizing n with
  | nil => simp
  | cons g gs ih =>
    refine Nat.lt_of_lt_of_le (ih _) ?_
    rw [List.length_cons,
      show Nat.pow 65536 (gs.length + 1) = Nat.pow 65536 gs.length * 65536 from rfl,
      Nat.mul_comm (Nat.pow 65536 gs.length), ← Nat.mul_assoc]
    exact Nat.mul_le_mul_right _ (by have := g.isLt; show n * 65536 + g.val + 1 ≤ _; omega)

theorem value_lt (gs : List (Fin 65536)) : value gs < Nat.pow 65536 gs.length := by
  have := foldl_lt gs 0
  simpa [value] using this

def readValue? (cs : List Char) : Option (Fin (Nat.pow 2 128)) :=
  match read? cs with
  | none => none
  | some gs =>
    if h : gs.length = 8 then
      some ⟨value gs, by have hv := value_lt gs; rw [h] at hv; exact hv⟩
    else none

/-- The hexadecimal numeral of a group, without leading zeros. -/
def hexNumeral (n : Nat) : List Char :=
  if n < 16 then [Text.hexDigit n] else hexNumeral (n / 16) ++ [Text.hexDigit (n % 16)]
termination_by n

/-- The eight groups of a 128-bit value. -/
def ofValue (n : Nat) : List Nat :=
  (List.range 8).map fun i => n / Nat.pow 65536 (7 - i) % 65536

/-- The length of the run of zeros at the start of a list. -/
def leadingZeros (gs : List Nat) : Nat :=
  (gs.takeWhile (· == 0)).length

/-- Where the first of the longest runs of zeros starts, and how long it is. -/
def longestRun (gs : List Nat) : Nat × Nat :=
  (List.range gs.length).foldl
    (fun best i =>
      if best.2 < leadingZeros (gs.drop i) then (i, leadingZeros (gs.drop i)) else best)
    (0, 0)

def joined (gs : List Nat) : List Char :=
  Text.join [':'] (gs.map hexNumeral)

def write (n : Nat) : List Char :=
  let gs := ofValue n
  let (start, length) := longestRun gs
  if length < 2 then joined gs
  else joined (gs.take start) ++ ':' :: ':' :: joined (gs.drop (start + length))

end EchoWatch.Net.Groups
