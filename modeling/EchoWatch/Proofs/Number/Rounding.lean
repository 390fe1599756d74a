import EchoWatch.Number.Binary64
import Mathlib.Algebra.Order.Field.Rat
import Mathlib.Data.Nat.Log
import Mathlib.Tactic.Ring
/-!
# Rounding to doubles

A double has fifty-three significant bits, so it is a small number times a power of two. What
rounding does is said once, by the step of the grid on which it takes place (`exists_step`); that
its results are doubles, that it leaves doubles as they are, that it does not cross a power of two,
and how far it goes at most (`roundUnits_lt`) are read off there.

Two kinds of doubles matter for sums of lengths:

* **`IsLength`**: the doubles that are no not-a-numbers and have no minus sign. Sums and products
  of them stay among them.
* **`Counts`**: a double that keeps count of a natural number. It is exact up to `2 ^ 53`, and
  beyond that it only ever grows.
-/

namespace EchoWatch.Binary64

/-! ## Nearest integers

The quotient of two numbers lies between its floor and the number after that, and so does the
integer that is nearest to it. Which of the two it is plays no part in most of what follows. -/

/-- The nearest integer is no less than the floor. -/
theorem div_le_divEven (num den : Nat) : num / den ≤ divEven num den := by
  unfold divEven
  dsimp only
  split
  · exact le_refl _
  · split <;> omega

/-- The nearest integer is at most one above the floor. -/
theorem divEven_le (num den : Nat) : divEven num den ≤ num / den + 1 := by
  unfold divEven
  dsimp only
  split
  · omega
  · split <;> omega

/-- A quotient without remainder is its own nearest integer. -/
theorem divEven_mul (n : Nat) {d : Nat} (hd : 0 < d) : divEven (n * d) d = n := by
  have hmod : n * d % d = 0 := Nat.mul_mod_left n d
  unfold divEven
  dsimp only
  rw [hmod, Nat.mul_zero, if_pos hd, Nat.mul_div_cancel n hd]

/-! ## Rounding to fifty-three bits

From `exists_step` on, rounding is a matter of the nearest multiple of a power of two. Comparisons
with a double follow because a double is a multiple of that power as well, or else too small to be
near. -/

/-- A number of units that a double can have, were there no largest one. -/
def Representable (u : Nat) : Prop :=
  ∃ k e, k < 2 ^ 53 ∧ u = k * 2 ^ e

/-- A multiple of a power of two is a double if the factor has at most fifty-three bits, and also if
it is `2 ^ 53` itself, which is one bit longer but a power of two. -/
theorem representable_mul_two_pow {k : Nat} (hk : k ≤ 2 ^ 53) (e : Nat) :
    Representable (k * 2 ^ e) := by
  rcases Nat.lt_or_eq_of_le hk with hlt | rfl
  · exact ⟨k, e, hlt, rfl⟩
  · exact ⟨1, 53 + e, by decide, by rw [one_mul, pow_add]⟩

/-- Rounding takes place on a grid whose step is a power of two: the finest one on which the
quotient needs no more than fifty-three bits. -/
theorem exists_step (num den : Nat) :
    ∃ e, num / den < 2 ^ (53 + e) ∧ (e = 0 ∨ 2 ^ (52 + e) ≤ num / den) ∧
      roundUnits num den = divEven num (den * 2 ^ e) * 2 ^ e := by
  unfold roundUnits
  dsimp only
  simp only [Nat.pow_eq]
  split
  next hsmall => exact ⟨0, hsmall, .inl rfl, by rw [pow_zero, mul_one, mul_one]⟩
  -- the step is the power of two that leaves fifty-three bits of the quotient
  next hlarge =>
    have hne : num / den ≠ 0 := by
      intro h
      rw [h] at hlarge
      exact hlarge (by decide)
    have hlog : 53 ≤ (num / den).log2 := (Nat.le_log2 hne).mpr (Nat.le_of_not_lt hlarge)
    refine ⟨(num / den).log2 - 52, ?_, .inr ?_, rfl⟩
    · have hlt : num / den < 2 ^ ((num / den).log2 + 1) := Nat.lt_log2_self
      rwa [show 53 + ((num / den).log2 - 52) = (num / den).log2 + 1 by omega]
    · have hle : 2 ^ (num / den).log2 ≤ num / den := Nat.log2_self_le hne
      rwa [show 52 + ((num / den).log2 - 52) = (num / den).log2 by omega]

/-- A quotient that takes up its step takes up no step that is finer than some grid on which it fits
into fifty-three bits. -/
theorem step_le {q e k : Nat} (hstep : e = 0 ∨ 2 ^ (52 + e) ≤ q) (hk : q < 2 ^ (53 + k)) :
    e ≤ k := by
  rcases hstep with rfl | hle
  · exact Nat.zero_le k
  · have := (Nat.pow_lt_pow_iff_right (by decide)).mp (hle.trans_lt hk)
    omega

/-- **Rounding gives doubles.** On the grid of the step, the result has fifty-three bits. -/
theorem representable_roundUnits (num den : Nat) : Representable (roundUnits num den) := by
  obtain ⟨e, hlt, -, hround⟩ := exists_step num den
  rw [hround]
  refine representable_mul_two_pow ?_ e
  have hquotient : num / (den * 2 ^ e) < 2 ^ 53 := by
    rw [← Nat.div_div_eq_div_mul, Nat.div_lt_iff_lt_mul (Nat.two_pow_pos e), ← pow_add]
    exact hlt
  have hle := divEven_le num (den * 2 ^ e)
  omega

/-- **Rounding leaves doubles as they are.** A double lies on the grid on which it is rounded. -/
theorem roundUnits_mul {u d : Nat} (hu : Representable u) (hd : 0 < d) :
    roundUnits (u * d) d = u := by
  obtain ⟨k, f, hk, rfl⟩ := hu
  obtain ⟨e, -, hstep, hround⟩ := exists_step (k * 2 ^ f * d) d
  rw [Nat.mul_div_cancel _ hd] at hstep
  have hef : e ≤ f := by
    -- the double is less than `2 ^ 53` steps of its own grid
    refine step_le hstep ?_
    rw [pow_add 2 53 f]
    exact Nat.mul_lt_mul_of_pos_right hk (Nat.two_pow_pos f)
  have hgrid : k * 2 ^ f = k * 2 ^ (f - e) * 2 ^ e := by
    rw [mul_assoc, ← pow_add, Nat.sub_add_cancel hef]
  have hnum : k * 2 ^ f * d = k * 2 ^ (f - e) * (d * 2 ^ e) := by
    rw [hgrid, mul_assoc, mul_comm (2 ^ e) d]
  rw [hround, hnum, divEven_mul _ (Nat.mul_pos hd (Nat.two_pow_pos e)), ← hgrid]

/-- Rounding does not fall below a double. -/
theorem le_roundUnits {u num den : Nat} (hu : Representable u) (h : u ≤ num / den) :
    u ≤ roundUnits num den := by
  obtain ⟨k, f, hk, rfl⟩ := hu
  obtain ⟨e, -, hstep, hround⟩ := exists_step num den
  have hfloor : num / den / 2 ^ e ≤ divEven num (den * 2 ^ e) := by
    rw [Nat.div_div_eq_div_mul]
    exact div_le_divEven _ _
  rw [hround]
  rcases Nat.lt_or_ge f e with hf | hf
  · -- the double is below the least number on a grid this coarse
    have hlarge : 2 ^ 52 ≤ num / den / 2 ^ e := by
      rw [Nat.le_div_iff_mul_le (Nat.two_pow_pos e), ← pow_add]
      exact hstep.resolve_left (by omega)
    calc
      k * 2 ^ f ≤ 2 ^ 53 * 2 ^ f := Nat.mul_le_mul_right _ hk.le
      _ = 2 ^ (53 + f) := (pow_add 2 53 f).symm
      _ ≤ 2 ^ (52 + e) := Nat.pow_le_pow_right (by decide) (by omega)
      _ = 2 ^ 52 * 2 ^ e := pow_add 2 52 e
      _ ≤ divEven num (den * 2 ^ e) * 2 ^ e := Nat.mul_le_mul_right _ (hlarge.trans hfloor)
  · have hgrid : k * 2 ^ f = k * 2 ^ (f - e) * 2 ^ e := by
      rw [mul_assoc, ← pow_add, Nat.sub_add_cancel hf]
    have hquotient : k * 2 ^ (f - e) ≤ num / den / 2 ^ e := by
      rw [Nat.le_div_iff_mul_le (Nat.two_pow_pos e), ← hgrid]
      exact h
    rw [hgrid]
    exact Nat.mul_le_mul_right _ (hquotient.trans hfloor)

/-- Rounding does not fall below a power of two. -/
theorem two_pow_le_roundUnits {num den k : Nat} (h : 2 ^ k ≤ num / den) :
    2 ^ k ≤ roundUnits num den :=
  le_roundUnits ⟨1, k, by decide, (one_mul _).symm⟩ h

/-- Rounding stays below what is more than half a step away. -/
theorem roundUnits_lt {u num den k : Nat} (hden : 0 < den) (hk : num / den < 2 ^ (53 + k))
    (h : 2 * num + den * 2 ^ k < 2 * (u * den)) : roundUnits num den < u := by
  obtain ⟨e, -, hstep, hround⟩ := exists_step num den
  have hek : e ≤ k := step_le hstep hk
  obtain ⟨hclose, -⟩ := divEven_close num (den * 2 ^ e) (Nat.mul_pos hden (Nat.two_pow_pos e))
  -- half a step of this grid is at most half of the step that is asked for
  have hgrid : divEven num (den * 2 ^ e) * (den * 2 ^ e) = roundUnits num den * den := by
    rw [hround, mul_comm den, ← mul_assoc]
  have hsteps : den * 2 ^ e ≤ den * 2 ^ k :=
    Nat.mul_le_mul_left den (Nat.pow_le_pow_right (by decide) hek)
  rw [hgrid] at hclose
  exact Nat.lt_of_mul_lt_mul_right (show roundUnits num den * den < u * den by omega)

/-- Rounding does not rise above a power of two. -/
theorem roundUnits_le_two_pow {num den k : Nat} (h : num / den < 2 ^ k) :
    roundUnits num den ≤ 2 ^ k := by
  obtain ⟨e, -, hstep, hround⟩ := exists_step num den
  -- the step is no larger than the bound, which is a multiple of it for that reason
  have hek : e ≤ k :=
    step_le hstep (h.trans_le (Nat.pow_le_pow_right (by decide) (Nat.le_add_left k 53)))
  have hquotient : num / (den * 2 ^ e) < 2 ^ (k - e) := by
    rw [← Nat.div_div_eq_div_mul, Nat.div_lt_iff_lt_mul (Nat.two_pow_pos e), ← pow_add,
      Nat.sub_add_cancel hek]
    exact h
  have hle : divEven num (den * 2 ^ e) ≤ 2 ^ (k - e) := by
    have := divEven_le num (den * 2 ^ e)
    omega
  calc
    roundUnits num den = divEven num (den * 2 ^ e) * 2 ^ e := hround
    _ ≤ 2 ^ (k - e) * 2 ^ e := Nat.mul_le_mul_right _ hle
    _ = 2 ^ k := by rw [← pow_add, Nat.sub_add_cancel hek]

/-! ## Units

Doubles are counted in units of the least positive one. The results on whole units are turned into
results on values here, and overflow becomes a condition on them. -/

/-- The units of one are a power of two, and too large is what is `2 ^ 1024` times as much. How many
bits there are behind the point plays no part in what follows, as long as they are many. -/
theorem exists_one_eq : ∃ e, 53 ≤ e ∧ one = 2 ^ e ∧ overflow = 2 ^ (1024 + e) := by
  have hpow : ∀ e, e = 1074 → one = 2 ^ e ∧ overflow = 2 ^ (1024 + e) := by
    intro e he
    have hsum : 2098 = 1024 + e := by omega
    constructor
    · unfold one
      rw [← he]
      exact Nat.pow_eq
    · unfold overflow
      rw [hsum]
      exact Nat.pow_eq
  exact ⟨1074, by decide, hpow 1074 rfl⟩

/-- There are units in one. -/
theorem one_pos : 0 < one := by
  -- in units, the bound is a power of two
  obtain ⟨e, -, hone, -⟩ := exists_one_eq
  rw [hone]
  exact Nat.two_pow_pos e

theorem overflow_pos : 0 < overflow := by
  obtain ⟨e, -, -, hoverflow⟩ := exists_one_eq
  rw [hoverflow]
  exact Nat.two_pow_pos _

/-- The exact value of a finite double. -/
def toRat? : Binary64 → Option Rat
  | finite s u => some ((signedUnits s u : Rat) / one)
  | _ => none

/-- The value of the nearest double, as long as there is one. -/
theorem eq_of_toRat?_nearest {num den : Nat} {q : Rat}
    (h : (nearest false num den).toRat? = some q) :
    q = ((roundUnits num den : Nat) : Rat) / (one : Nat) := by
  unfold nearest at h
  dsimp only at h
  split at h
  · have hvalue : ((roundUnits num den : Int) : Rat) / (one : Nat) = q := Option.some.inj h
    rw [← hvalue, Int.cast_natCast]
  · cases h

/-- A double that does not overflow is the nearest one to itself. -/
theorem nearest_of_lt {u den : Nat} (hden : 0 < den) (hu : Representable u) (hlt : u < overflow) :
    nearest false (u * den) den = .finite false u := by
  unfold nearest
  rw [roundUnits_mul hu hden, if_pos hlt]

/-- Nothing is rounded to zero, with a plus sign. -/
theorem nearest_zero (den : Nat) (hden : 0 < den) : nearest false 0 den = .finite false 0 := by
  have hzero : Representable 0 := ⟨0, 0, by decide, rfl⟩
  have h := nearest_of_lt hden hzero overflow_pos
  rw [Nat.zero_mul] at h
  exact h

/-! ## Lengths

A length stays one under sums and products with positive factors: no infinity of the other sign and
no product of an infinity with zero comes up. -/

/-- A double that is no not-a-number and has no minus sign. -/
inductive IsLength : Binary64 → Prop where
  | finite {u : Nat} (hu : Representable u) : IsLength (finite false u)
  | infinite : IsLength (infinite false)

theorem isLength_zero : IsLength (.finite false 0) :=
  .finite ⟨0, 0, by decide, rfl⟩

/-- Rounding without a minus sign gives lengths: a finite double or, from overflow on, infinity. -/
theorem isLength_nearest (num den : Nat) : IsLength (nearest false num den) := by
  unfold nearest
  dsimp only
  split
  · exact .finite (representable_roundUnits num den)
  · exact .infinite

/-- A decimal is read as a length, in whichever of the four ways the exponent asks for. -/
theorem isLength_ofDecimal (digits length : Nat) (exponent : Int) :
    IsLength (ofDecimal false digits length exponent) := by
  unfold ofDecimal
  split
  · exact isLength_zero
  split
  · exact .infinite
  split
  · exact isLength_zero
  split <;> exact isLength_nearest _ _

/-- Finite lengths are added exactly and then rounded. Two zeros do not lose their sign. -/
theorem finite_add_finite (u v : Nat) :
    Binary64.finite false u + .finite false v = nearest false (u + v) 1 := by
  change add _ _ = _
  unfold add signedUnits
  simp only [Bool.false_eq_true, if_false]
  rw [← Nat.cast_add, Int.natAbs_natCast, decide_eq_false (not_lt.mpr (Int.natCast_nonneg _))]
  split
  next hzero =>
    rw [show u + v = 0 by omega, nearest_zero 1 Nat.one_pos]
    rfl
  next => rfl

/-- Finite lengths are multiplied exactly and then rounded. -/
theorem finite_mul_finite (u v : Nat) :
    Binary64.finite false u * .finite false v = nearest false (u * v) one := by
  change mul _ _ = _
  rw [mul, bne_self_eq_false]

/-- Sums of lengths are lengths. An infinite one takes the other one up. -/
theorem IsLength.add {x y : Binary64} (hx : IsLength x) (hy : IsLength y) : IsLength (x + y) := by
  cases hx with
  | infinite => cases hy <;> exact .infinite
  | finite =>
    cases hy with
    | infinite => exact .infinite
    | finite =>
      rw [finite_add_finite]
      exact isLength_nearest _ _

/-- An infinite length times a positive one is infinite. -/
theorem infinite_mul_finite {v : Nat} (hv : 0 < v) :
    Binary64.infinite false * .finite false v = .infinite false := by
  change (if v = 0 then nan true else Binary64.infinite (false != false)) = _
  rw [if_neg hv.ne']
  rfl

/-- Only the product of an infinity with zero is not a number. -/
theorem IsLength.mul_finite {x : Binary64} (hx : IsLength x) {v : Nat} (hv : 0 < v) :
    IsLength (x * .finite false v) := by
  cases hx with
  | infinite =>
    rw [infinite_mul_finite hv]
    exact .infinite
  | finite =>
    rw [finite_mul_finite]
    exact isLength_nearest _ _

/-! ## Counting

A sum of whole numbers is exact while it can be, and after that stays above `2 ^ 53`. So a count can
be compared with any bound below that, whatever was lost beyond it. -/

/-- A length that is no less than `2 ^ 53`. -/
inductive Huge : Binary64 → Prop where
  | finite {u : Nat} (hu : Representable u) (hle : 2 ^ 53 * one ≤ u) : Huge (finite false u)
  | infinite : Huge (infinite false)

/-- What is huge is a length. -/
theorem Huge.isLength {x : Binary64} (hx : Huge x) : IsLength x := by
  cases hx with
  | finite hu => exact .finite hu
  | infinite => exact .infinite

/-- A quotient of at least `2 ^ 53` is rounded to a huge length, since rounding does not fall below
a power of two. -/
theorem huge_nearest {num den : Nat} (hden : 0 < den) (h : 2 ^ 53 * one * den ≤ num) :
    Huge (nearest false num den) := by
  obtain ⟨e, -, hone, -⟩ := exists_one_eq
  have hquotient : 2 ^ (53 + e) ≤ num / den := by
    rw [Nat.le_div_iff_mul_le hden, pow_add, ← hone]
    exact h
  have hle : 2 ^ 53 * one ≤ roundUnits num den := by
    rw [hone, ← pow_add]
    exact two_pow_le_roundUnits hquotient
  unfold nearest
  dsimp only
  split
  · exact .finite (representable_roundUnits num den) hle
  · exact .infinite

/-- What is huge stays so under sums. -/
theorem Huge.add {x y : Binary64} (hx : Huge x) (hy : IsLength y) : Huge (x + y) := by
  cases hx with
  | infinite => cases hy <;> exact .infinite
  | finite _ hle =>
    cases hy with
    | infinite => exact .infinite
    | finite =>
      rw [finite_add_finite]
      exact huge_nearest Nat.one_pos (by omega)

theorem IsLength.add_huge {x y : Binary64} (hx : IsLength x) (hy : Huge y) : Huge (x + y) := by
  cases hy with
  | infinite => cases hx <;> exact .infinite
  | finite _ hle =>
    cases hx with
    | infinite => exact .infinite
    | finite =>
      rw [finite_add_finite]
      exact huge_nearest Nat.one_pos (by omega)

/-- What is huge stays so under multiples. -/
theorem Huge.mul_nat {x : Binary64} (hx : Huge x) {n : Nat} (hn : 0 < n) :
    Huge (x * .finite false (n * one)) := by
  cases hx with
  | infinite =>
    rw [infinite_mul_finite (Nat.mul_pos hn one_pos)]
    exact .infinite
  | finite _ hle =>
    rw [finite_mul_finite]
    exact huge_nearest one_pos (Nat.mul_le_mul hle (Nat.le_mul_of_pos_left one hn))

/-- What is counted in doubles: exact as long as every number up to it is a double, and at least as
much as that once it has gone further. -/
inductive Counts : Binary64 → Nat → Prop where
  | exact {n : Nat} (hn : n ≤ 2 ^ 53) : Counts (finite false (n * one)) n
  | beyond {x : Binary64} {n : Nat} (hn : 2 ^ 53 < n) (hx : Huge x) : Counts x n

/-- Whole numbers up to `2 ^ 53` are doubles. -/
theorem representable_mul_one {n : Nat} (hn : n ≤ 2 ^ 53) : Representable (n * one) := by
  obtain ⟨e, -, hone, -⟩ := exists_one_eq
  rw [hone]
  exact representable_mul_two_pow hn e

theorem Counts.isLength {x : Binary64} {n : Nat} (h : Counts x n) : IsLength x := by
  cases h with
  | exact hn => exact .finite (representable_mul_one hn)
  | beyond _ hx => exact hx.isLength

/-- A whole number up to `2 ^ 53` is the nearest double to itself. -/
theorem nearest_of_le {n den : Nat} (hden : 0 < den) (hn : n ≤ 2 ^ 53) :
    nearest false (n * one * den) den = .finite false (n * one) := by
  obtain ⟨e, -, hone, hoverflow⟩ := exists_one_eq
  -- far from overflow, which begins at `2 ^ 1024`
  have hlt : n * one < overflow :=
    calc
      n * one ≤ 2 ^ 53 * one := Nat.mul_le_mul_right one hn
      _ = 2 ^ (53 + e) := by rw [hone, pow_add]
      _ < 2 ^ (1024 + e) := Nat.pow_lt_pow_right (by decide) (by omega)
      _ = overflow := hoverflow.symm
  exact nearest_of_lt hden (representable_mul_one hn) hlt

/-- Below `2 ^ 34` the doubles are so close that a number of millionths is not rounded to the next
integer. -/
theorem roundUnits_millionths_div_one {n : Nat} (hn : n ≤ 2 ^ 34 * 1000000) :
    roundUnits (n * one) 1000000 / one = n / 1000000 := by
  obtain ⟨e, he, hone, -⟩ := exists_one_eq
  rcases Nat.lt_or_eq_of_le hn with hlt | rfl
  · have hwhole : n / 1000000 * one ≤ roundUnits (n * one) 1000000 := by
      refine le_roundUnits (representable_mul_one (by omega)) ?_
      rw [Nat.le_div_iff_mul_le (by decide), Nat.mul_right_comm]
      exact Nat.mul_le_mul_right one (Nat.div_mul_le_self n 1000000)
    have hnext : roundUnits (n * one) 1000000 < (n / 1000000 + 1) * one := by
      -- the steps are at most `w`, and a millionth is more than half of that
      let w := 2 ^ (e - 19)
      have hw : one = 2 ^ 19 * w := by
        rw [hone, ← pow_add, Nat.add_sub_cancel' (by omega)]
      refine roundUnits_lt (by decide) (k := e - 19) ?_ ?_
      · rw [show 53 + (e - 19) = 34 + e by omega, pow_add, ← hone,
          Nat.div_lt_iff_lt_mul (by decide), Nat.mul_right_comm]
        exact Nat.mul_lt_mul_of_pos_right hlt one_pos
      · have hgap : n + 1 ≤ (n / 1000000 + 1) * 1000000 := by omega
        have hpos : 0 < w := Nat.two_pow_pos _
        calc
          2 * (n * one) + 1000000 * w < 2 * (n * one) + 2 * one := by omega
          _ = 2 * ((n + 1) * one) := by ring
          _ ≤ 2 * ((n / 1000000 + 1) * 1000000 * one) :=
            Nat.mul_le_mul_left 2 (Nat.mul_le_mul_right one hgap)
          _ = 2 * ((n / 1000000 + 1) * one * 1000000) := by ring
    exact Nat.div_eq_of_lt_le hwhole hnext
  · rw [Nat.mul_right_comm, roundUnits_mul (representable_mul_one (by decide)) (by decide),
      Nat.mul_div_cancel _ one_pos, Nat.mul_div_cancel _ (by decide)]

theorem counts_nearest (n : Nat) {den : Nat} (hden : 0 < den) :
    Counts (nearest false (n * one * den) den) n := by
  rcases Nat.lt_or_ge (2 ^ 53) n with hn | hn
  · exact .beyond hn (huge_nearest hden (Nat.mul_le_mul_right _ (Nat.mul_le_mul_right _ hn.le)))
  · rw [nearest_of_le hden hn]
    exact .exact hn

theorem counts_zero : Counts (.finite false 0) 0 := by
  have h := Counts.exact (Nat.zero_le (2 ^ 53))
  rwa [Nat.zero_mul] at h

/-- A decimal without a fraction counts as the number that its digits spell. -/
theorem counts_ofDecimal (n length : Nat) : Counts (ofDecimal false n length 0) n := by
  unfold ofDecimal
  split
  next hzero =>
    rw [hzero]
    exact counts_zero
  next =>
    have h := counts_nearest n Nat.one_pos
    rw [mul_one] at h
    rw [if_neg (by decide), if_neg (by omega), if_pos (le_refl 0), Int.toNat_zero, Nat.pow_eq,
      pow_zero, mul_one]
    exact h

theorem ofInt_natCast {n : Nat} (hn : n ≤ 2 ^ 53) :
    ofInt (n : Int) = .finite false (n * one) := by
  have h := nearest_of_le Nat.one_pos hn
  rw [mul_one] at h
  unfold ofInt ofRatio
  rw [Int.natAbs_natCast, decide_eq_false (not_lt.mpr (Int.natCast_nonneg n))]
  exact h

theorem Counts.add {x y : Binary64} {m n : Nat} (hx : Counts x m) (hy : Counts y n) :
    Counts (x + y) (m + n) := by
  cases hx with
  | beyond hm hhuge => exact .beyond (by omega) (hhuge.add hy.isLength)
  | exact hm =>
    cases hy with
    | beyond hn hhuge =>
      have hlength : IsLength (.finite false (m * one)) := (Counts.exact hm).isLength
      exact .beyond (by omega) (hlength.add_huge hhuge)
    | exact hn =>
      have h := counts_nearest (m + n) Nat.one_pos
      rw [mul_one, Nat.add_mul] at h
      rw [finite_add_finite]
      exact h

theorem Counts.mul {x : Binary64} {m n : Nat} (hx : Counts x m) (hn : 0 < n) :
    Counts (x * .finite false (n * one)) (m * n) := by
  cases hx with
  | beyond hm hhuge => exact .beyond (hm.trans_le (Nat.le_mul_of_pos_right m hn)) (hhuge.mul_nat hn)
  | exact hm =>
    have h := counts_nearest (m * n) one_pos
    rw [finite_mul_finite, mul_mul_mul_comm, ← mul_assoc]
    exact h

end EchoWatch.Binary64
