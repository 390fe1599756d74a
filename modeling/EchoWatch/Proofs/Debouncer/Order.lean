import EchoWatch.Debouncer
import Mathlib.Data.List.Forall2
import Mathlib.Order.BooleanAlgebra.Basic
/-!
# Phases in order of liveness

The phases lie on a line from down to up: a count of sightings is better the longer it is, a count
of misses the shorter it is, and any count of misses is better than any count of sightings.

On that line a debouncer is monotone in all that it is given. `Phase.observe_mono` is the step: a
better phase, a better observation, a lower threshold for up and a higher one for down never lead
to a worse phase. `Debouncer.observeAll_mono` is the run.
-/

namespace EchoWatch
namespace Phase

/-! ## The order -/

/-- The stretch of the line that a phase lies on, and its place there. -/
def rank : Phase → Nat × Int
  | down => (0, 0)
  | maybeUp n => (1, n)
  | maybeDown n => (2, -n)
  | up => (3, 0)

theorem rank_injective : Function.Injective rank := by
  intro p q h
  cases p <;> cases q <;> simp_all [rank]

instance : LE Phase where
  le p q := (rank p).1 < (rank q).1 ∨ (rank p).1 = (rank q).1 ∧ (rank p).2 ≤ (rank q).2

theorem le_iff_rank {p q : Phase} :
    p ≤ q ↔ (rank p).1 < (rank q).1 ∨ (rank p).1 = (rank q).1 ∧ (rank p).2 ≤ (rank q).2 :=
  Iff.rfl

instance : PartialOrder Phase where
  le_refl p := by
    rw [le_iff_rank]
    omega
  le_trans p q r hpq hqr := by
    rw [le_iff_rank] at hpq hqr ⊢
    omega
  le_antisymm p q hpq hqp := by
    rw [le_iff_rank] at hpq hqp
    exact rank_injective (Prod.ext (by omega) (by omega))

@[simp] theorem down_le (p : Phase) : down ≤ p := by
  cases p <;> simp [le_iff_rank, rank]

@[simp] theorem le_up (p : Phase) : p ≤ up := by
  cases p <;> simp [le_iff_rank, rank]

@[simp] theorem maybeUp_le_maybeUp {m n : Int} : maybeUp m ≤ maybeUp n ↔ m ≤ n := by
  simp [le_iff_rank, rank]

@[simp] theorem maybeDown_le_maybeDown {m n : Int} : maybeDown m ≤ maybeDown n ↔ n ≤ m := by
  simp [le_iff_rank, rank]

/-- What lies below what: a pair on the line is of one of five kinds. -/
theorem le_iff {p q : Phase} :
    p ≤ q ↔ p = down ∨ q = up ∨ (∃ m n, p = maybeUp m ∧ q = maybeUp n ∧ m ≤ n) ∨
      (∃ m n, p = maybeUp m ∧ q = maybeDown n) ∨
      (∃ m n, p = maybeDown m ∧ q = maybeDown n ∧ n ≤ m) := by
  cases p <;> cases q <;> simp [le_iff_rank, rank]

/-! ## Counts

Opening a count at one is monotone only because no count is below one. -/

/-- Whatever is counted has been observed at least once. -/
def Counted : Phase → Prop
  | up | down => True
  | maybeUp n | maybeDown n => 1 ≤ n

/-- Counts start at one and grow. -/
theorem Counted.observe {p : Phase} (h : p.Counted) (limits : Thresholds) (seen : Bool) :
    (p.observe limits seen).1.Counted := by
  cases p with
  | up | down => cases seen <;> simp [Phase.observe, Counted]
  -- the count goes on, or a phase without a count is reached
  | maybeUp n =>
    have hn : 1 ≤ n := h
    cases seen with
    | false => trivial
    | true =>
      simp only [Phase.observe]
      split
      · trivial
      · simp only [Counted]; omega
  | maybeDown n =>
    have hn : 1 ≤ n := h
    cases seen with
    | true => trivial
    | false =>
      simp only [Phase.observe]
      split
      · trivial
      · simp only [Counted]; omega

/-! ## One step -/

/-- A sighting is never worse than a miss. -/
theorem observe_false_le_true (limits : Thresholds) (p : Phase) :
    (p.observe limits false).1 ≤ (p.observe limits true).1 := by
  cases p <;> simp [Phase.observe]

/-- Thresholds that are easier to reach up and harder to reach down are never worse. -/
theorem observe_limits_mono {limits limits' : Thresholds} (hup : limits'.up ≤ limits.up)
    (hdown : limits.down ≤ limits'.down) (p : Phase) (seen : Bool) :
    (p.observe limits seen).1 ≤ (p.observe limits' seen).1 := by
  cases p with
  | up | down => cases seen <;> simp [Phase.observe]
  | maybeUp n =>
    cases seen with
    | false => simp [Phase.observe]
    | true =>
      -- who confirms up with the higher threshold does so with the lower one
      by_cases h : limits.up ≤ n + 1
      · have h' : limits'.up ≤ n + 1 := by omega
        simp [Phase.observe, h, h']
      · simp only [Phase.observe, h, if_false]
        split <;> simp
  | maybeDown n =>
    cases seen with
    | true => simp [Phase.observe]
    | false =>
      -- and who confirms down with the higher threshold does so with the lower one
      by_cases h : limits.down ≤ n + 1
      · simp [Phase.observe, h]
      · have h' : ¬ limits'.down ≤ n + 1 := by omega
        simp [Phase.observe, h, h']

/-- A sighting opens a count of sightings at the least. -/
theorem maybeUp_one_le_observe {p : Phase} (h : p.Counted) (limits : Thresholds) :
    maybeUp 1 ≤ (p.observe limits true).1 := by
  cases p with
  | up | down | maybeDown n => simp [Phase.observe]
  | maybeUp n =>
    have hn : 1 ≤ n := h
    simp only [Phase.observe]
    split
    · exact le_up _
    · simp only [maybeUp_le_maybeUp]; omega

/-- A miss leaves a count of one miss at the best. -/
theorem observe_le_maybeDown_one {p : Phase} (h : p.Counted) (limits : Thresholds) :
    (p.observe limits false).1 ≤ maybeDown 1 := by
  cases p with
  | up | down | maybeUp n => simp [Phase.observe]
  | maybeDown n =>
    have hn : 1 ≤ n := h
    simp only [Phase.observe]
    split
    · exact down_le _
    · simp only [maybeDown_le_maybeDown]; omega

/-- A better phase stays better. One case per kind of pair on the line. -/
theorem observe_phase_mono (limits : Thresholds) {p q : Phase} (hp : p.Counted) (hq : q.Counted)
    (h : p ≤ q) (seen : Bool) : (p.observe limits seen).1 ≤ (q.observe limits seen).1 := by
  -- sightings and misses both lead from lower to higher phases, case by case of the order
  rcases le_iff.mp h with
    rfl | rfl | ⟨m, n, rfl, rfl, hmn⟩ | ⟨m, n, rfl, rfl⟩ | ⟨m, n, rfl, rfl, hnm⟩
  · cases seen with
    | false => exact down_le _
    | true => exact maybeUp_one_le_observe hq limits
  · cases seen with
    | false => exact observe_le_maybeDown_one hp limits
    | true => exact le_up _
  · cases seen with
    | false => exact down_le _
    | true =>
      by_cases hfull : limits.up ≤ n + 1
      · simp [Phase.observe, hfull]
      · have hshort : ¬ limits.up ≤ m + 1 := by omega
        simp [Phase.observe, hfull, hshort, hmn]
  · cases seen with
    | false => exact down_le _
    | true => exact le_up _
  · cases seen with
    | false =>
      by_cases hfull : limits.down ≤ m + 1
      · simp [Phase.observe, hfull]
      · have hshort : ¬ limits.down ≤ n + 1 := by omega
        simp [Phase.observe, hfull, hshort, hnm]
    | true => exact le_up _

/-- **One step is monotone** in the phase, in the observation and in both thresholds. -/
theorem observe_mono {limits limits' : Thresholds} (hup : limits'.up ≤ limits.up)
    (hdown : limits.down ≤ limits'.down) {p q : Phase} (hp : p.Counted) (hq : q.Counted)
    (h : p ≤ q) {seen seen' : Bool} (hseen : seen ≤ seen') :
    (p.observe limits seen).1 ≤ (q.observe limits' seen').1 := by
  have hobs : (p.observe limits seen).1 ≤ (p.observe limits seen').1 := by
    rcases hseen.eq_or_lt with rfl | hlt
    · exact le_refl _
    · obtain ⟨rfl, rfl⟩ := Bool.lt_iff.mp hlt
      exact observe_false_le_true limits p
  calc (p.observe limits seen).1
      ≤ (p.observe limits seen').1 := hobs
    _ ≤ (q.observe limits seen').1 := observe_phase_mono limits hp hq h seen'
    _ ≤ (q.observe limits' seen').1 := observe_limits_mono hup hdown q seen'

end Phase

/-! ## Every run -/

namespace Debouncer

theorem observe_phase_counted {d : Debouncer} (h : d.phase.Counted) (seen : Bool) :
    (d.observe seen).phase.Counted :=
  h.observe d.limits seen

/-- **Every run is monotone.** Two debouncers are fed in step; the second one starts no worse, is
fed no worse and has the milder thresholds. Induction on the two histories, from the front. -/
theorem observeAll_mono {seen seen' : List Bool} (hseen : List.Forall₂ (· ≤ ·) seen seen')
    {d e : Debouncer} (hup : e.limits.up ≤ d.limits.up) (hdown : d.limits.down ≤ e.limits.down)
    (hd : d.phase.Counted) (he : e.phase.Counted) (h : d.phase ≤ e.phase) :
    (d.observeAll seen).phase ≤ (e.observeAll seen').phase := by
  induction hseen generalizing d e with
  | nil => exact h
  | cons hb _ ih =>
    exact ih hup hdown (observe_phase_counted hd _) (observe_phase_counted he _)
      (Phase.observe_mono hup hdown hd he h hb)

end Debouncer
end EchoWatch
