/-!
# Double precision numbers

A double is a sign and a natural number of units of `2 ^ -1074`, an infinity or a not-a-number.
Every operation works out the exact result and rounds it once: `nearest` gives the closest double
of a quotient, the one with an even significand when two are equally close. The sixty-four bit
encoding is read and written at the end.
-/

namespace EchoWatch

/-- A double precision number. -/
inductive Binary64 where
  /-- The value `± units * 2 ^ -1074`; zero has two signs. -/
  | finite (negative : Bool) (units : Nat)
  | infinite (negative : Bool)
  | nan (negative : Bool)
  deriving DecidableEq, Inhabited, Repr

namespace Binary64

/-- The units in one: `2 ^ 1074`. -/
def one : Nat := Nat.pow 2 1074

/-- The units of the first power of two that is too large for a double: `2 ^ 1024`. -/
def overflow : Nat := Nat.pow 2 2098

/-! ### Rounding -/

/-- The quotient of two natural numbers, rounded to the nearest integer, a half to the even one. -/
def divEven (num den : Nat) : Nat :=
  let q := num / den
  let twice := 2 * (num % den)
  if twice < den then q
  else if den < twice then q + 1
  else q + q % 2

/-- A quotient of units, rounded to fifty-three significant bits. -/
def roundUnits (num den : Nat) : Nat :=
  let q := num / den
  if q < Nat.pow 2 53 then divEven num den
  else
    let step := Nat.pow 2 (q.log2 - 52)
    divEven num (den * step) * step

/-- The double closest to a quotient of units. -/
def nearest (negative : Bool) (num den : Nat) : Binary64 :=
  let units := roundUnits num den
  if units < overflow then finite negative units else infinite negative

/-- The double closest to a fraction. -/
def ofRatio (num : Int) (den : Nat) : Binary64 :=
  nearest (num < 0) (num.natAbs * one) den

def ofInt (n : Int) : Binary64 :=
  ofRatio n 1

/-- The double closest to `digits * 10 ^ exponent`. Exponents beyond all doubles are cut short, so
that no huge power is ever worked out: a numeral of `n` digits is below `10 ^ n`. -/
def ofDecimal (negative : Bool) (digits : Nat) (length : Nat) (exponent : Int) : Binary64 :=
  if digits = 0 then finite negative 0
  else if 400 < exponent then infinite negative
  else if (length : Int) + exponent < -400 then finite negative 0
  else if 0 ≤ exponent then nearest negative (digits * Nat.pow 10 exponent.toNat * one) 1
  else nearest negative (digits * one) (Nat.pow 10 (-exponent).toNat)

/-! ### Arithmetic -/

/-- A finite value as a signed number of units. -/
def signedUnits (negative : Bool) (units : Nat) : Int :=
  if negative then -units else units

/-- The other sign. -/
def neg : Binary64 → Binary64
  | finite s u => finite (!s) u
  | infinite s => infinite (!s)
  | nan s => nan (!s)

/-- The sum, rounded. A zero sum is positive unless both terms are negative. -/
def add : Binary64 → Binary64 → Binary64
  | nan s, _ => nan s
  | _, nan s => nan s
  | infinite s, infinite t => if s = t then infinite s else nan true
  | infinite s, finite _ _ => infinite s
  | finite _ _, infinite t => infinite t
  | finite s u, finite t v =>
    let sum := signedUnits s u + signedUnits t v
    if sum = 0 then finite (s && t) 0 else nearest (sum < 0) sum.natAbs 1

/-- The product, rounded. -/
def mul : Binary64 → Binary64 → Binary64
  | nan s, _ => nan s
  | _, nan s => nan s
  | infinite s, infinite t => infinite (s != t)
  | infinite s, finite t v => if v = 0 then nan true else infinite (s != t)
  | finite s u, infinite t => if u = 0 then nan true else infinite (s != t)
  | finite s u, finite t v => nearest (s != t) (u * v) one

instance : Neg Binary64 := ⟨neg⟩
instance : Add Binary64 := ⟨add⟩
instance : Sub Binary64 := ⟨fun x y => add x (neg y)⟩
instance : Mul Binary64 := ⟨mul⟩

/-- Strict order. A not-a-number is below nothing and above nothing. -/
def lt : Binary64 → Binary64 → Bool
  | nan _, _ => false
  | _, nan _ => false
  | infinite s, infinite t => s && !t
  | infinite s, finite _ _ => s
  | finite _ _, infinite t => !t
  | finite s u, finite t v => signedUnits s u < signedUnits t v

/-- Numerical equality: the two zeros are equal, and a not-a-number equals nothing. -/
def eq : Binary64 → Binary64 → Bool
  | nan _, _ => false
  | _, nan _ => false
  | infinite s, infinite t => s == t
  | finite s u, finite t v => signedUnits s u == signedUnits t v
  | _, _ => false

instance : LT Binary64 := ⟨fun x y => lt x y = true⟩
instance : DecidableLT Binary64 := fun x y => inferInstanceAs (Decidable (lt x y = true))

/-- The integer part of a finite value, toward zero. -/
def truncate? : Binary64 → Option Int
  | finite s u => some (signedUnits s (u / one))
  | _ => none

/-- A finite value that is an integer. -/
def toInt? : Binary64 → Option Int
  | finite s u => if u % one = 0 then some (signedUnits s (u / one)) else none
  | _ => none

/-- Neither infinite nor a not-a-number. -/
def isFinite : Binary64 → Bool
  | finite _ _ => true
  | _ => false

/-! ### The sixty-four bit encoding -/

/-- Exponent field and fraction field together: the encoding without its sign. -/
def magnitudeBits : Binary64 → Nat
  | finite _ u =>
    if u < Nat.pow 2 53 then u
    else
      let e := u.log2 - 52
      e * Nat.pow 2 52 + u / Nat.pow 2 e
  | infinite _ => 0x7FF * Nat.pow 2 52
  | nan _ => 0x7FF * Nat.pow 2 52 + Nat.pow 2 51

/-- The sign of a number; a not-a-number has one too. -/
def negative : Binary64 → Bool
  | finite s _ => s
  | infinite s => s
  | nan s => s

/-- The encoding in sixty-four bits. -/
def toBits (x : Binary64) : Nat :=
  (if x.negative then Nat.pow 2 63 else 0) + x.magnitudeBits

/-! ### Laws of rounding -/

theorem divEven_one (n : Nat) : divEven n 1 = n := by
  simp [divEven, Nat.mod_one]

/-- A whole number of units of at most fifty-three bits is a double as it stands. -/
theorem roundUnits_of_lt {u : Nat} (h : u < Nat.pow 2 53) : roundUnits u 1 = u := by
  unfold roundUnits
  rw [Nat.div_one]
  dsimp only
  rw [if_pos h, divEven_one]

/-- Rounding moves by at most half a step: twice the distance is at most the denominator. -/
theorem divEven_close (num den : Nat) (h : 0 < den) :
    2 * (divEven num den * den) ≤ 2 * num + den ∧ 2 * num ≤ 2 * (divEven num den * den) + den := by
  have hq := Nat.div_add_mod num den
  have hr := Nat.mod_lt num h
  have e1 : ∀ k, (num / den + k) * den = den * (num / den) + k * den := by
    intro k; rw [Nat.add_mul, Nat.mul_comm den]
  unfold divEven
  dsimp only
  split
  · rw [Nat.mul_comm (num / den)]; omega
  · split
    · rw [e1 1, Nat.one_mul]; omega
    · have hm : num / den % 2 = 0 ∨ num / den % 2 = 1 := by omega
      rcases hm with hm | hm <;> rw [hm, e1] <;> omega

end Binary64
end EchoWatch
