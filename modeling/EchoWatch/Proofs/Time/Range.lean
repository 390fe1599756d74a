import EchoWatch.Proofs.Number.Rounding
import EchoWatch.Time.Duration
import Mathlib.Tactic.Linarith
import Mathlib.Tactic.Positivity
import Mathlib.Tactic.Ring
/-!
# The range of durations

A duration has at least `-999999999` whole days and less than `1000000000`. A number of seconds is
rounded to microseconds before that is checked, but near the limits the grid of the doubles is so
coarse that its points are whole microseconds (`roundedMicros_mul_one`). So nothing is rounded into
the range or out of it.

* **`exists_ofSeconds_iff`**: a number of seconds becomes a duration just when it is in the range.
-/

namespace EchoWatch.Duration

open Binary64

/-! ## Microseconds

Durations are kept as days, seconds and microseconds, and it is the days that are limited. In
microseconds this is an interval that has its upper end excluded. -/

/-- **What is in range**, in microseconds. -/
theorem ofMicros_eq_ok_iff {us r : Int} :
    ofMicros us = .ok r ↔
      us = r ∧ -(maxDays * dayMicros) ≤ us ∧ us < (maxDays + 1) * dayMicros := by
  have hdays : -maxDays ≤ us / dayMicros ∧ us / dayMicros ≤ maxDays ↔
      -(maxDays * dayMicros) ≤ us ∧ us < (maxDays + 1) * dayMicros := by
    unfold maxDays dayMicros
    omega
  unfold ofMicros
  rw [← hdays]
  dsimp only
  split
  next hbounds => simp [hbounds]
  next hbounds =>
    -- either way the conversion reports an error
    have hno : ¬ (us = r ∧ -maxDays ≤ us / dayMicros ∧ us / dayMicros ≤ maxDays) :=
      fun h => hbounds h.2
    refine iff_of_false ?_ hno
    split <;> exact fun h => nomatch h

theorem ofMicros_of_bounds {us : Int} (hlow : -(maxDays * dayMicros) ≤ us)
    (hhigh : us < (maxDays + 1) * dayMicros) : ofMicros us = .ok us :=
  ofMicros_eq_ok_iff.mpr ⟨rfl, hlow, hhigh⟩

/-- Beyond either bound it fails. -/
theorem exists_error_of_bounds {us : Int}
    (h : us < -(maxDays * dayMicros) ∨ (maxDays + 1) * dayMicros ≤ us) :
    ∃ cause, ofMicros us = .error cause := by
  cases hmicros : ofMicros us with
  | error cause => exact ⟨cause, rfl⟩
  | ok r =>
    obtain ⟨-, hlow, hhigh⟩ := ofMicros_eq_ok_iff.mp hmicros
    rcases h with h | h
    · exact absurd hlow (not_le.mpr h)
    · exact absurd hhigh (not_lt.mpr h)

/-! ## Seconds

The fraction of a second is converted apart from the whole seconds, and rounded twice on the way.
That can add one second at most. -/

/-- The microseconds of a number of units, whatever its sign. -/
def roundedMicros (units : Nat) : Nat :=
  units / one * 1000000 + divEven (roundUnits (units % one * 1000000) 1) one

theorem ofSeconds_finite (negative : Bool) (units : Nat) :
    ofSeconds (.finite negative units) = ofMicros (signedUnits negative (roundedMicros units)) :=
  rfl

/-- Below a whole number of seconds, rounding does not reach past the next one. -/
theorem roundedMicros_lt {n units : Nat} (h : units < n * one) :
    roundedMicros units < (n + 1) * 1000000 := by
  obtain ⟨e, -, hone, -⟩ := exists_one_eq
  have hquotient : units / one < n := (Nat.div_lt_iff_lt_mul Binary64.one_pos).mpr h
  have hrest : units % one < one := Nat.mod_lt _ Binary64.one_pos
  -- the rest is below a second; what it is rounded to is at most the next power of two
  have hproduct : roundUnits (units % one * 1000000) 1 ≤ 2 ^ 20 * one := by
    rw [hone, ← pow_add]
    refine roundUnits_le_two_pow ?_
    rw [Nat.div_one, pow_add, ← hone]
    omega
  have hdivEven := divEven_le (roundUnits (units % one * 1000000) 1) one
  have hdiv : roundUnits (units % one * 1000000) 1 / one ≤ 2 ^ 20 := by
    rw [← Nat.mul_div_cancel (2 ^ 20) Binary64.one_pos]
    exact Nat.div_le_div_right hproduct
  unfold roundedMicros
  omega

/-! ## Far from zero

The two ends of the range are so large that doubles near them have no fraction finer than a
sixty-fourth of a second. There the conversion is exact, and comparing microseconds is comparing
units. Far below, both comparisons hold anyway. -/

/-- From `2 ^ 46` seconds on nothing is rounded: the microseconds are a million times the
seconds. -/
theorem roundedMicros_mul_one {units : Nat} (hunits : Representable units)
    (hlarge : 2 ^ 46 * one ≤ units) : roundedMicros units * one = units * 1000000 := by
  obtain ⟨e, he, hone, -⟩ := exists_one_eq
  obtain ⟨k, f, hk, rfl⟩ := hunits
  -- from here on the doubles are multiples of `w`, a sixty-fourth of a second, which is a whole
  -- number of microseconds: nothing is rounded any more
  let w := 2 ^ (e - 6)
  have hw : 0 < w := Nat.two_pow_pos _
  have hone' : one = 64 * w := by
    rw [hone, show e = 6 + (e - 6) by omega, pow_add]
    rfl
  have hef : e - 6 ≤ f := by
    have hlt : 2 ^ (46 + e) < 2 ^ (53 + f) := by
      rw [pow_add, ← hone, pow_add]
      exact hlarge.trans_lt (Nat.mul_lt_mul_of_pos_right hk (Nat.two_pow_pos f))
    have := (Nat.pow_lt_pow_iff_right (by decide)).mp hlt
    omega
  -- the double is `j` steps of `w`, of which the second has sixty-four
  obtain ⟨j, hj⟩ : ∃ j, k * 2 ^ f = j * w :=
    ⟨k * 2 ^ (f - (e - 6)), by rw [mul_assoc, ← pow_add, Nat.sub_add_cancel hef]⟩
  have hdiv : k * 2 ^ f / one = j / 64 := by
    rw [hj, hone', Nat.mul_div_mul_right _ _ hw]
  have hmod : k * 2 ^ f % one = j % 64 * w := by
    rw [hj, hone', Nat.mul_mod_mul_right]
  have hround : roundUnits (j % 64 * w * 1000000) 1 = j % 64 * 1000000 * w := by
    have hrepresentable : Representable (j % 64 * 1000000 * w) :=
      representable_mul_two_pow (by omega) _
    have h := roundUnits_mul hrepresentable Nat.one_pos
    rw [mul_one] at h
    rwa [Nat.mul_right_comm]
  have hexact : divEven (j % 64 * 1000000 * w) (64 * w) = j % 64 * 15625 := by
    rw [show j % 64 * 1000000 * w = j % 64 * 15625 * (64 * w) by ring]
    exact divEven_mul _ (by omega)
  have hcount : roundedMicros (k * 2 ^ f) * 64 = j * 1000000 := by
    unfold roundedMicros
    rw [hdiv, hmod, hround, hone', hexact]
    omega
  -- multiply by sixty-four, where everything is a whole number
  calc
    roundedMicros (k * 2 ^ f) * one = roundedMicros (k * 2 ^ f) * 64 * w := by
      rw [hone', ← mul_assoc]
    _ = j * w * 1000000 := by rw [hcount, Nat.mul_right_comm]
    _ = k * 2 ^ f * 1000000 := by rw [hj]

/-- A large whole number of seconds is compared in microseconds as it is in units. By cases on
whether the double is large as well. -/
theorem roundedMicros_lt_iff {n units : Nat} (hunits : Representable units) (hn : 2 ^ 46 < n) :
    roundedMicros units < n * 1000000 ↔ units < n * one := by
  rcases Nat.lt_or_ge units (2 ^ 46 * one) with hsmall | hlarge
  · have hmicros : roundedMicros units < n * 1000000 :=
      (roundedMicros_lt hsmall).trans_le (Nat.mul_le_mul_right 1000000 hn)
    exact iff_of_true hmicros (hsmall.trans_le (Nat.mul_le_mul_right one hn.le))
  · rw [← Nat.mul_lt_mul_right Binary64.one_pos, roundedMicros_mul_one hunits hlarge,
      Nat.mul_right_comm, Nat.mul_lt_mul_right (by decide)]

theorem roundedMicros_le_iff {n units : Nat} (hunits : Representable units) (hn : 2 ^ 46 < n) :
    roundedMicros units ≤ n * 1000000 ↔ units ≤ n * one := by
  rcases Nat.lt_or_ge units (2 ^ 46 * one) with hsmall | hlarge
  · have hmicros : roundedMicros units < n * 1000000 :=
      (roundedMicros_lt hsmall).trans_le (Nat.mul_le_mul_right 1000000 hn)
    exact iff_of_true hmicros.le (hsmall.le.trans (Nat.mul_le_mul_right one hn.le))
  · rw [← Nat.mul_le_mul_right_iff Binary64.one_pos, roundedMicros_mul_one hunits hlarge,
      Nat.mul_right_comm, Nat.mul_le_mul_right_iff (by decide)]

/-! ## What fits

Now the bounds are brought back to the value of the double. Each sign has its own. -/

/-- A number of seconds in the range of durations. -/
def Fits (x : Binary64) : Prop :=
  ∃ q, x.toRat? = some q ∧ -(999999999 * 86400) ≤ q ∧ q < 1000000000 * 86400

/-- A length with the sign that is written in front of it. -/
def signed (negative : Bool) (x : Binary64) : Binary64 :=
  if negative then -x else x

theorem signed_finite (negative : Bool) (u : Nat) :
    signed negative (.finite false u) = .finite negative u := by
  cases negative <;> rfl

theorem signed_infinite (negative : Bool) :
    signed negative (.infinite false) = .infinite negative := by
  cases negative <;> rfl

theorem ratio_lt_iff (u n : Nat) {w : Nat} (hw : 0 < w) : (u : Rat) / w < n ↔ u < n * w := by
  rw [div_lt_iff₀ (Nat.cast_pos.mpr hw)]
  norm_cast

theorem ratio_le_iff (u n : Nat) {w : Nat} (hw : 0 < w) : (u : Rat) / w ≤ n ↔ u ≤ n * w := by
  rw [div_le_iff₀ (Nat.cast_pos.mpr hw)]
  norm_cast

theorem ratio_nonneg (u w : Nat) : (0 : Rat) ≤ (u : Rat) / w := by
  positivity

/-- Upwards the range ends below a thousand million days. -/
theorem fits_positive_iff (u : Nat) : Fits (.finite false u) ↔ u < 86400000000000 * one := by
  have hvalue : (Binary64.finite false u).toRat? = some ((u : Rat) / (one : Nat)) := rfl
  have hlow := ratio_nonneg u one
  have hiff := ratio_lt_iff u 86400000000000 Binary64.one_pos
  unfold Fits
  rw [hvalue, ← hiff]
  simp only [Option.some.injEq, exists_eq_left']
  constructor
  · rintro ⟨-, h⟩
    linarith
  · intro h
    exact ⟨by linarith, by linarith⟩

/-- Downwards it ends with one day less than that. -/
theorem fits_negative_iff (u : Nat) : Fits (.finite true u) ↔ u ≤ 86399999913600 * one := by
  have hvalue : (Binary64.finite true u).toRat? = some (-((u : Rat) / (one : Nat))) := by
    rw [← neg_div]
    rfl
  have hhigh := ratio_nonneg u one
  have hiff := ratio_le_iff u 86399999913600 Binary64.one_pos
  unfold Fits
  rw [hvalue, ← hiff]
  simp only [Option.some.injEq, exists_eq_left']
  constructor
  · rintro ⟨h, -⟩
    linarith
  · intro h
    exact ⟨by linarith, by linarith⟩

/-- **A length converts just when its value is in range.** By cases: infinities are not, and for
each sign the bound is a large whole number of seconds. -/
theorem exists_ofSeconds_iff {x : Binary64} (hx : IsLength x) (negative : Bool) :
    (∃ us, ofSeconds (signed negative x) = .ok us) ↔ Fits (signed negative x) := by
  cases hx with
  | infinite =>
    rw [signed_infinite]
    refine iff_of_false ?_ ?_
    · rintro ⟨us, h⟩
      cases h
    · rintro ⟨q, h, -⟩
      cases h
  | @finite u hu =>
    rw [signed_finite, ofSeconds_finite]
    simp only [ofMicros_eq_ok_iff, exists_eq_left']
    cases negative with
    | false =>
      -- both bounds are compared after rounding to microseconds, which keeps the order
      rw [fits_positive_iff, ← roundedMicros_lt_iff hu (by decide)]
      unfold signedUnits maxDays dayMicros
      simp only [Bool.false_eq_true, if_false]
      omega
    | true =>
      rw [fits_negative_iff, ← roundedMicros_le_iff hu (by decide)]
      unfold signedUnits maxDays dayMicros
      simp only [if_true]
      omega

end EchoWatch.Duration
