import EchoWatch.Proofs.Debouncer.Window
/-!
# Verdicts and the counts against them

A phase stands by a verdict, up or down, also while it counts the observations that speak against
it. `Phase.Move` lists the moves that an observation can make; what follows is read off that list.

* **`Move.notable_iff`**: an observation is notable just when it turns the verdict.
* **`Move.turns`**: a verdict turns only after its quorum of observations, because a count looks
  back over as many observations as it says and no further (`Phase.Within`).
* **`phase_observeAll_lapse`**: what becomes of a debouncer that is up when the sightings end.
-/

namespace EchoWatch

open Debouncer (quorum two_le_quorum threshold_le_iff)

namespace Phase

/-- The verdict that a phase stands by, whatever it counts against it. -/
def verdict : Phase → Bool
  | up | maybeDown _ => true
  | down | maybeUp _ => false

/-- The observation that a phase has last been given, as far as it can tell. -/
def latest : Phase → Bool
  | up | maybeUp _ => true
  | down | maybeDown _ => false

/-- Whatever a phase counts lies within the last `n` observations, and there is something. -/
def Within (n : Nat) : Phase → Prop
  | up | down => True
  | maybeUp k | maybeDown k => 1 ≤ k ∧ k ≤ (n : Int)

theorem verdict_eq_true_iff {p : Phase} :
    p.verdict = true ↔ p = .up ∨ ∃ n, p = .maybeDown n := by
  cases p <;> simp [verdict]

theorem latest_eq_true_iff {p : Phase} : p.latest = true ↔ p = .up ∨ ∃ n, p = .maybeUp n := by
  cases p <;> simp [latest]

theorem latest_eq_false_iff {p : Phase} :
    p.latest = false ↔ p = .down ∨ ∃ n, p = .maybeDown n := by
  cases p <;> simp [latest]

/-! ## The moves of an observation -/

/-- The moves: a phase, what is observed, the next phase, and whether the move is notable. -/
inductive Move (limits : Thresholds) : Phase → Bool → Phase → Bool → Prop where
  | stayUp : Move limits .up true .up false
  | stayDown : Move limits .down false .down false
  | openUp : Move limits .down true (.maybeUp 1) false
  | openDown : Move limits .up false (.maybeDown 1) false
  | countUp (n : Int) (h : n + 1 < limits.up) :
      Move limits (.maybeUp n) true (.maybeUp (n + 1)) false
  | countDown (n : Int) (h : n + 1 < limits.down) :
      Move limits (.maybeDown n) false (.maybeDown (n + 1)) false
  | dropUp (n : Int) : Move limits (.maybeUp n) false .down false
  | dropDown (n : Int) : Move limits (.maybeDown n) true .up false
  | confirmUp (n : Int) (h : limits.up ≤ n + 1) : Move limits (.maybeUp n) true .up true
  | confirmDown (n : Int) (h : limits.down ≤ n + 1) : Move limits (.maybeDown n) false .down true

/-- **Every observation makes one of these moves.** -/
theorem move_observe (limits : Thresholds) (p : Phase) (seen : Bool) :
    Move limits p seen (p.observe limits seen).1 (p.observe limits seen).2 := by
  cases p with
  -- four phases and two observations; with a count the threshold decides
  | up => cases seen with
    | true => exact .stayUp
    | false => exact .openDown
  | down => cases seen with
    | true => exact .openUp
    | false => exact .stayDown
  | maybeUp n => cases seen with
    | false => exact .dropUp n
    | true =>
      simp only [observe]
      split
      next h => exact .confirmUp n h
      next h => exact .countUp n (by omega)
  | maybeDown n => cases seen with
    | true => exact .dropDown n
    | false =>
      simp only [observe]
      split
      next h => exact .confirmDown n h
      next h => exact .countDown n (by omega)

namespace Move

variable {limits : Thresholds} {p q : Phase} {seen notable : Bool}

/-- **Notable moves are those that turn the verdict.** -/
theorem notable_iff (h : Move limits p seen q notable) :
    notable = true ↔ q.verdict ≠ p.verdict := by
  cases h <;> simp [verdict]

theorem latest_eq (h : Move limits p seen q notable) : q.latest = seen := by
  cases h <;> rfl

theorem ne_of_notable (h : Move limits p seen q true) : q ≠ p := by
  cases h <;> simp

/-- Notable moves are recognized by the two phases alone. -/
theorem notable_iff_phases (h : Move limits p seen q notable) :
    notable = true ↔
      (∃ n, p = .maybeUp n) ∧ q = .up ∨ (∃ n, p = .maybeDown n) ∧ q = .down := by
  cases h <;> simp

/-- A silent move to a verdict drops a count. -/
theorem drops_of_silent (h : Move limits p seen q false) (hne : q ≠ p)
    (hq : q = .up ∨ q = .down) :
    (∃ n, p = .maybeDown n) ∧ q = .up ∨ (∃ n, p = .maybeUp n) ∧ q = .down := by
  cases h <;> simp at hne hq ⊢

/-- A count that goes on takes in the new observation. -/
theorem within (h : Move limits p seen q notable) {n : Nat} (hp : p.Within n) :
    q.Within (n + 1) := by
  cases h with
  | stayUp | stayDown | dropUp | dropDown | confirmUp | confirmDown => trivial
  | openUp | openDown => simp only [Within]; omega
  | countUp k | countDown k =>
    obtain ⟨hpos, hle⟩ : 1 ≤ k ∧ k ≤ (n : Int) := hp
    simp only [Within]; omega

/-- A verdict turns only after its quorum of observations, and these are among the last ones. What
is left is the other verdict itself. -/
theorem turns (h : Move limits p seen q true) {n : Nat} (hp : p.Within n) :
    p.verdict = !seen ∧ q = (if seen then .up else .down) ∧
      quorum (if seen then limits.up else limits.down) ≤ n + 1 := by
  cases h with
  | confirmUp k hk | confirmDown k hk =>
    obtain ⟨hpos, hle⟩ : 1 ≤ k ∧ k ≤ (n : Int) := hp
    refine ⟨rfl, rfl, ?_⟩
    simp only [if_true, Bool.false_eq_true, if_false, quorum]
    omega

end Move
end Phase

theorem Debouncer.move (d : Debouncer) (seen : Bool) :
    Phase.Move d.limits d.phase seen (d.observe seen).phase (d.notable seen) :=
  d.phase.move_observe d.limits seen

/-! ## The end of sightings -/

/-- The phase of a debouncer that was up and has missed `m` observations in a row since then, when
`D` of them confirm that it is down. -/
def Phase.missed (D m : Nat) : Phase :=
  if m = 0 then .up else if m < D then .maybeDown m else .down

/-- The verdict of a peer that is missed turns with the last miss that is needed. -/
theorem Phase.verdict_missed {D : Nat} (hD : 0 < D) (m : Nat) :
    (missed D m).verdict = decide (m < D) := by
  unfold missed
  by_cases hfirst : m = 0
  · simp [hfirst, hD, verdict]
  · by_cases hcount : m < D <;> simp [hfirst, hcount, verdict]

theorem Phase.observe_missed (limits : Thresholds) (m : Nat) :
    ((missed (quorum limits.down) m).observe limits false).1 =
      missed (quorum limits.down) (m + 1) := by
  have hD := two_le_quorum limits.down
  unfold missed
  -- the first miss opens the count, later ones go on or fill the quorum, and down stays down
  by_cases hfirst : m = 0
  · have hone : 1 < quorum limits.down := by omega
    simp [hfirst, observe, hone]
  · by_cases hcount : m < quorum limits.down
    · have hfull := threshold_le_iff limits.down (n := m) (by omega)
      by_cases hlast : m + 1 < quorum limits.down
      · have hshort : ¬ limits.down ≤ (m : Int) + 1 := by omega
        simp [hfirst, hcount, hlast, observe, hshort]
      · have hlong : limits.down ≤ (m : Int) + 1 := by omega
        simp [hfirst, hcount, hlast, observe, hlong]
    · have hdone : ¬ m + 1 < quorum limits.down := by omega
      simp [hfirst, hcount, hdone, observe]

namespace Debouncer

/-- The first `k` of observations that are sightings up to number `j` and misses from there on. -/
def lapse (j k : Nat) : List Bool :=
  (List.range k).map fun n => n < j

theorem lapse_succ (j k : Nat) : lapse j (k + 1) = lapse j k ++ [decide (k < j)] := by
  simp [lapse, List.range_succ]

theorem lapse_succ_eq_cons (j k : Nat) :
    lapse j (k + 1) = decide (0 < j) :: lapse (j - 1) k := by
  simp only [lapse, List.range_succ_eq_map, List.map_cons, List.map_map, List.cons.injEq, true_and]
  apply List.map_congr_left
  intro n _
  simp only [Function.comp_apply, decide_eq_decide]
  omega

theorem take_lapse {j k n : Nat} (h : k ≤ n) : (lapse j n).take k = lapse j k := by
  rw [lapse, ← List.map_take, List.take_range, Nat.min_eq_left h, lapse]

/-- What is true only before it is false is true as often as it is true, and false from there on. -/
theorem map_eq_lapse {α : Type} {f : α → Bool} {l : List α}
    (h : l.Pairwise fun a b => f b = true → f a = true) :
    l.map f = lapse (l.countP f) l.length := by
  induction l with
  | nil => rfl
  | cons a l ih =>
    obtain ⟨hfirst, hrest⟩ := List.pairwise_cons.mp h
    rw [List.map_cons, List.length_cons, lapse_succ_eq_cons, ih hrest]
    cases ha : f a with
    | true =>
      rw [List.countP_cons_of_pos ha]
      simp
    | false =>
      -- nothing after a miss is a sighting
      have hnone : l.countP f = 0 := by
        rw [List.countP_eq_zero]
        intro b hb hfb
        rw [hfirst b hb hfb] at ha
        cases ha
      rw [List.countP_cons_of_neg (by simp [ha]), hnone]
      simp

theorem observeAll_append (d : Debouncer) (seen later : List Bool) :
    d.observeAll (seen ++ later) = (d.observeAll seen).observeAll later := by
  simp [observeAll]

/-- **Silence.** A debouncer that is up stays so as long as there are sightings, then counts the
misses up to its quorum, and is down from there on. -/
theorem phase_observeAll_lapse (limits : Thresholds) (j k : Nat) :
    ((Debouncer.mk .up limits).observeAll (lapse j k)).phase =
      .missed (quorum limits.down) (k - j) := by
  induction k with
  | zero => simp [lapse, observeAll, Phase.missed]
  | succ k ih =>
    rw [lapse_succ, observeAll_snoc, observe, observeAll_limits, ih]
    by_cases hsight : k < j
    · -- still a sighting: nothing is missed so far
      have hnone : k - j = 0 := by omega
      have hnone' : k + 1 - j = 0 := by omega
      rw [hnone, hnone', decide_eq_true hsight]
      rfl
    · have hmore : k + 1 - j = k - j + 1 := by omega
      rw [hmore, decide_eq_false hsight, Phase.observe_missed]

end Debouncer
end EchoWatch
