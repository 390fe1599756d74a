import EchoWatch.Proofs.Number.Rounding
import EchoWatch.Proofs.Settings.Acceptance
import EchoWatch.Proofs.Watch.Grid
import Mathlib.Algebra.Order.Field.Basic
import Mathlib.Data.Rat.Cast.Order
import Mathlib.Tactic.Linarith
import Mathlib.Tactic.Ring
/-!
# The pace of the checks

After an overrun the missed deadlines are dropped, and none is made up for: from one deadline to the
next it is always a cycle at least. So however late the passes are over, no more of them have begun
than there were cycles since the start (`pace_of_checks`). This needs a positive cycle, which every
configuration that is accepted has.

Times are taken from any ordered field. The cycle is the length that the configuration names, or
what the double nearest to it is exactly.
-/

namespace EchoWatch
namespace Schedule

/-! ## Counting

Passes are counted by the moments at which they begin. If there are more than some number of them,
one begins late enough to be compared with a late deadline. -/

/-- Among more than `n` elements with a property one stands at place `n` or behind it. -/
theorem exists_of_lt_countP {α : Type} {p : α → Bool} {xs : List α} {n : Nat}
    (h : n < xs.countP p) : ∃ k x, n ≤ k ∧ xs[k]? = some x ∧ p x := by
  by_contra hno
  -- otherwise all of them are among the first `n` entries
  have hdrop : (xs.drop n).countP p = 0 := by
    rw [List.countP_eq_zero]
    intro x hx hpx
    obtain ⟨i, hi⟩ := List.mem_iff_getElem?.mp hx
    rw [List.getElem?_drop] at hi
    exact hno ⟨n + i, x, Nat.le_add_right n i, hi, hpx⟩
  have hsplit : (xs.take n ++ xs.drop n).countP p = _ := List.countP_append
  rw [List.take_append_drop, hdrop] at hsplit
  have htake : (xs.take n).countP p ≤ n :=
    List.countP_le_length.trans (List.length_take_le n xs)
  omega

/-! ## Deadlines -/

section Order

variable {α : Type} [Add α] [LinearOrder α] {cycle start deadline now next : α} {ends : List α}
variable {k : Nat}

/-- The next deadline has not passed yet. -/
theorem le_nextTick (deadline cycle now : α) : now ≤ nextTick deadline cycle now := by
  rcases lt_or_ge now (deadline + cycle) with h | h
  · rw [nextTick_of_lt h]
    exact h.le
  · rw [nextTick_of_le h]

/-- Two deadlines in a row are a cycle apart or more, and just a cycle if the pass was in time. -/
theorem deadline_step (hdeadline : (deadlines cycle start ends)[k]? = some deadline)
    (hnow : ends[k]? = some now) (hnext : (deadlines cycle start ends)[k + 1]? = some next) :
    deadline + cycle ≤ next ∧ now ≤ next ∧ (now < deadline + cycle → next = deadline + cycle) := by
  obtain rfl : nextTick deadline cycle now = next :=
    Option.some.inj ((getElem?_deadlines_succ hdeadline hnow).symm.trans hnext)
  exact ⟨add_cycle_le_nextTick deadline cycle now, le_nextTick deadline cycle now, nextTick_of_lt⟩

end Order

section Sums

variable {α : Type} [AddCommMonoid α] [LinearOrder α] [IsOrderedAddMonoid α]
variable {cycle start deadline : α} {ends : List α} {k : Nat}

/-- Deadline `k` is `k` cycles after the start or later. Induction on `k`. -/
theorem start_add_le (hdeadline : (deadlines cycle start ends)[k]? = some deadline) :
    start + k • cycle ≤ deadline := by
  -- induction on the number of passes: each one adds a cycle at least
  induction k generalizing deadline with
  | zero =>
    rw [getElem?_deadlines_zero] at hdeadline
    rw [zero_nsmul, add_zero]
    exact (Option.some.inj hdeadline).le
  | succ k ih =>
    obtain ⟨last, now, hlast, -, rfl⟩ := exists_of_getElem?_deadlines_succ hdeadline
    calc
      start + (k + 1) • cycle = start + k • cycle + cycle := by rw [succ_nsmul, add_assoc]
      _ ≤ last + cycle := add_le_add_left (ih hlast) cycle
      _ ≤ nextTick last cycle now := add_cycle_le_nextTick last cycle now

end Sums

/-! ## Passes

Nobody begins a pass before its deadline (`Patient`), and deadlines are at least a cycle apart. So
there cannot be more passes than cycles. -/

theorem start_add_succ {K : Type} [Field K] (start cycle : K) (k : Nat) :
    start + cycle + k • cycle = start + (k + 1 : Nat) * cycle := by
  rw [nsmul_eq_mul, Nat.cast_succ]
  ring

section Passes

variable {K : Type} [Field K] [LinearOrder K] [IsStrictOrderedRing K]
variable {cycle start : K} {ends begins : List K}

/-- No wait returns before its deadline. -/
def Patient (ds begins : List K) : Prop :=
  ∀ (k : Nat) (begun : K), begins[k]? = some begun → ∃ d : K, ds[k]? = some d ∧ d ≤ begun

/-- A pass begins no earlier than its deadline. -/
theorem Patient.le_begun (h : Patient (deadlines cycle (start + cycle) ends) begins) {k : Nat}
    {begun : K} (hbegun : begins[k]? = some begun) : start + (k + 1 : Nat) * cycle ≤ begun := by
  obtain ⟨d, hd, hle⟩ := h k begun hbegun
  rw [← start_add_succ]
  exact (start_add_le hd).trans hle

/-- The number of passes that have begun by some time. -/
def begunBy (begins : List K) (t : K) : Nat :=
  begins.countP (· ≤ t)

/-- **No more passes than cycles** have begun at any time. -/
theorem Patient.begunBy_le (h : Patient (deadlines cycle (start + cycle) ends) begins)
    (hcycle : 0 < cycle) {t : K} (ht : start ≤ t) : begunBy begins t ≤ (t - start) / cycle := by
  cases hcount : begunBy begins t with
  | zero =>
    rw [Nat.cast_zero]
    exact div_nonneg (sub_nonneg.mpr ht) hcycle.le
  | succ n =>
    -- the pass at place `n` or a later one has begun by then
    obtain ⟨k, begun, hle, hbegun, hby⟩ :=
      exists_of_lt_countP (hcount ▸ Nat.lt_succ_self n : n < begunBy begins t)
    have htime : start + (k + 1 : Nat) * cycle ≤ t :=
      (h.le_begun hbegun).trans (of_decide_eq_true hby)
    rw [le_div_iff₀ hcycle]
    have hplaces : ((n + 1 : Nat) : K) ≤ (k + 1 : Nat) := Nat.cast_le.mpr (by omega)
    have hmul := mul_le_mul_of_nonneg_right hplaces hcycle.le
    linarith

/-- Before the start none has begun. -/
theorem Patient.begunBy_eq_zero (h : Patient (deadlines cycle (start + cycle) ends) begins)
    (hcycle : 0 < cycle) {t : K} (ht : t < start) : begunBy begins t = 0 := by
  by_contra hne
  obtain ⟨k, begun, -, hbegun, hby⟩ := exists_of_lt_countP (Nat.pos_of_ne_zero hne)
  have htime : start + (k + 1 : Nat) * cycle ≤ t :=
    (h.le_begun hbegun).trans (of_decide_eq_true hby)
  have hpositive : 0 < ((k + 1 : Nat) : K) * cycle :=
    mul_pos (Nat.cast_pos.mpr (Nat.succ_pos k)) hcycle
  linarith

end Passes

end Schedule

/-! ## The cycle of a configuration

The bounds need a cycle above zero. An accepted configuration has one: a duration above zero is at
least a microsecond, which is not rounded to zero seconds. -/

namespace Settings

/-- A duration above zero is above zero in seconds. -/
theorem toSeconds_pos {us : Micros} (hus : 0 < us) {c : Rat}
    (hc : (Duration.toSeconds us).toRat? = some c) : 0 < c := by
  obtain ⟨e, he, hone, -⟩ := Binary64.exists_one_eq
  have hquotient : 2 ^ 0 ≤ us.natAbs * Binary64.one / 1000000 := by
    have hlarge : 1000000 ≤ Binary64.one := by
      rw [hone]
      exact le_trans (by decide) (Nat.pow_le_pow_right (by decide) he)
    have habs : 0 < us.natAbs := Int.natAbs_pos.mpr hus.ne'
    rw [Nat.le_div_iff_mul_le (by decide), pow_zero, Nat.one_mul]
    exact hlarge.trans (Nat.le_mul_of_pos_left _ habs)
  -- a microsecond is many units, so it is not rounded to none
  have hunits := Binary64.two_pow_le_roundUnits hquotient
  have hsign : decide (us < 0) = false := decide_eq_false (not_lt.mpr hus.le)
  unfold Duration.toSeconds Binary64.ofRatio at hc
  rw [hsign] at hc
  rw [Binary64.eq_of_toRat?_nearest hc]
  exact div_pos (Nat.cast_pos.mpr hunits) (Nat.cast_pos.mpr Binary64.one_pos)

/-- How long a cycle is in seconds: as the configuration names it, or as a double. -/
def CycleSeconds (s : Settings) (c : Rat) : Prop :=
  c = s.cycle / 1000000 ∨ s.cycleSeconds.toRat? = some c

/-- The cycle of an accepted configuration is above zero. -/
theorem CycleSeconds.pos {s : Settings} {c : Rat} (h : CycleSeconds s c) (hs : Sound s) :
    0 < c := by
  rcases h with rfl | hc
  · have hcycle : (0 : Rat) < s.cycle := Int.cast_pos.mpr hs.cycle_pos
    exact div_pos hcycle (by norm_num)
  · exact toSeconds_pos hs.cycle_pos hc

end Settings

/-! ## The pace -/

namespace Schedule

/-- **There is no burst of checks to make up for missed ones.** A configuration that is accepted has
a positive cycle. Whenever the passes are over, each deadline is a cycle after the one before it at
least, is not before the time at which it is decided on, and is just a cycle after the one before it
if the pass is over in time. So the deadlines are as many cycles after the start as there were
passes, or later, and no more passes have begun by any time than there were cycles until then. -/
theorem pace_of_checks {v : Value} {s : Settings} (haccepted : Settings.ofValue v = .valid s)
    {c : Rat} (hc : s.CycleSeconds c) {K : Type} [Field K] [LinearOrder K]
    [IsStrictOrderedRing K] (start : K) (ends : List K) :
    0 < c ∧
    (∀ (k : Nat) (deadline now next : K),
      (deadlines (c : K) (start + c) ends)[k]? = some deadline → ends[k]? = some now →
      (deadlines (c : K) (start + c) ends)[k + 1]? = some next →
      deadline + c ≤ next ∧ now ≤ next ∧ (now < deadline + c → next = deadline + c)) ∧
    (∀ (k : Nat) (deadline : K), (deadlines (c : K) (start + c) ends)[k]? = some deadline →
      start + (k + 1 : Nat) * c ≤ deadline) ∧
    ∀ begins, Patient (deadlines (c : K) (start + c) ends) begins → ∀ t,
      (start ≤ t → begunBy begins t ≤ (t - start) / c) ∧ (t < start → begunBy begins t = 0) := by
  have hpos : 0 < c := hc.pos ((Settings.meets_ofValue v).valid s haccepted)
  -- the order of the field does not matter beyond this: the cycle is a rational number above zero
  have hcycle : (0 : K) < c := Rat.cast_pos.mpr hpos
  refine ⟨hpos, fun k deadline now next => deadline_step, fun k deadline hdeadline => ?_,
    fun begins hbegins t => ⟨hbegins.begunBy_le hcycle, hbegins.begunBy_eq_zero hcycle⟩⟩
  rw [← start_add_succ]
  exact start_add_le hdeadline

/-- The first pass is over only at nine seconds, and the next one begins at once. -/
theorem pace_after_late_pass : (begunBy [4, 9] (9 : Rat) : Rat) ≤ (9 - 0) / 4 := by
  have hread : ∀ text us, (Duration.parse text).toOption = some us →
      Duration.parse text = .ok us := by
    intro text us h
    cases hparse : Duration.parse text with
    | error e =>
      rw [hparse] at h
      cases h
    | ok us' =>
      rw [hparse] at h
      exact congrArg Except.ok (Option.some.inj h)
  have hfour : Duration.parse "4s" = .ok 4000000 := hread _ _ (by decide +kernel)
  have height : Duration.parse "8s" = .ok 8000000 := hread _ _ (by decide +kernel)
  have haccepted := Settings.ofValue_of_durations hfour (by decide) height (by decide)
  have hcycle : Settings.CycleSeconds ⟨0, 0, "4s", "8s", "", ⟨"webhook", []⟩, []⟩ 4 := by
    left
    rw [Settings.cycle, Settings.micros_of_parse hfour]
    norm_num
  -- the first pass lasts from 4 to 9, and the second one begins at once
  have hpatient : Patient (deadlines (4 : Rat) (0 + 4) [9]) [4, 9] := by
    have hdeadlines : deadlines (4 : Rat) (0 + 4) [9] = [4, 9] := by
      norm_num [deadlines, nextTick]
    rw [hdeadlines]
    exact fun k begun hbegun => ⟨begun, hbegun, le_refl begun⟩
  exact ((pace_of_checks haccepted hcycle 0 [9]).2.2.2 _ hpatient 9).1 (by norm_num)

end Schedule
end EchoWatch
