import EchoWatch.Proofs.Watch.Ingestion
import Mathlib.Algebra.Order.Group.Int
/-!
# The grid of the checks

Each deadline is computed from the one before it: one cycle later, unless the pass in between was
not over by then, in which case it is the end of that pass. A pass that overruns therefore moves
everything after it. The deadlines lie on grids, and every overrun begins a grid of its own, at the
end of the pass, wherever that lies.

Times are taken from any ordered group, where sums are exact.

* **`getElem?_deadlines_succ`**: one deadline and the next.
* **`GridBegins`**: where a grid begins.
* **`late_pass_shifts_grid`**: a run whose deadlines leave the first grid for good.
* **`deadlines_on_grids`**: which grid a deadline lies on, and when it is the first one.
* **`rounds_follow`**: the loop of checks keeps to these deadlines.
-/

namespace EchoWatch
namespace Schedule

/-! ## Deadlines -/

section Deadlines

variable {α : Type} [Add α] [LT α] [DecidableLT α]

/-- There is one deadline more than there are passes. -/
theorem length_deadlines (cycle start : α) (ends : List α) :
    (deadlines cycle start ends).length = ends.length + 1 := by
  induction ends generalizing start with
  | nil => rfl
  | cons now ends ih => rw [deadlines, List.length_cons, ih, List.length_cons]

theorem getElem?_deadlines_zero (cycle start : α) (ends : List α) :
    (deadlines cycle start ends)[0]? = some start := by
  cases ends <;> rfl

/-- The check that is due at a deadline is over at some time, and the next deadline depends on both
alone. -/
theorem getElem?_deadlines_succ {cycle start deadline now : α} {ends : List α} {i : Nat}
    (hdeadline : (deadlines cycle start ends)[i]? = some deadline) (hnow : ends[i]? = some now) :
    (deadlines cycle start ends)[i + 1]? = some (nextTick deadline cycle now) := by
  induction ends generalizing start i with
  | nil => cases hnow
  | cons e ends ih =>
    rw [deadlines, List.getElem?_cons_succ]
    cases i with
    | zero =>
      obtain rfl : e = now := Option.some.inj hnow
      obtain rfl : start = deadline := Option.some.inj hdeadline
      exact getElem?_deadlines_zero _ _ _
    | succ i => exact ih hdeadline hnow

/-- Every deadline after the first one comes from the one before it. -/
theorem exists_of_getElem?_deadlines_succ {cycle start next : α} {ends : List α} {i : Nat}
    (hnext : (deadlines cycle start ends)[i + 1]? = some next) :
    ∃ deadline now, (deadlines cycle start ends)[i]? = some deadline ∧ ends[i]? = some now ∧
      next = nextTick deadline cycle now := by
  have hlt : i + 1 < (deadlines cycle start ends).length :=
    (List.getElem?_eq_some_iff.mp hnext).1
  have hlength := length_deadlines cycle start ends
  have hdeadline := List.getElem?_eq_getElem (l := deadlines cycle start ends) (i := i) (by omega)
  have hnow := List.getElem?_eq_getElem (l := ends) (i := i) (by omega)
  refine ⟨_, _, hdeadline, hnow, ?_⟩
  exact Option.some.inj (hnext.symm.trans (getElem?_deadlines_succ hdeadline hnow))

end Deadlines

/-! ## Overruns -/

section Order

variable {α : Type} [Add α] [LinearOrder α] {cycle deadline now : α}

theorem nextTick_of_lt (h : now < deadline + cycle) :
    nextTick deadline cycle now = deadline + cycle :=
  if_pos h

theorem nextTick_of_le (h : deadline + cycle ≤ now) : nextTick deadline cycle now = now :=
  if_neg (not_lt.mpr h)

/-- In any case it is no earlier than a cycle later. -/
theorem add_cycle_le_nextTick (deadline cycle now : α) :
    deadline + cycle ≤ nextTick deadline cycle now := by
  rcases lt_or_ge now (deadline + cycle) with h | h
  · rw [nextTick_of_lt h]
  · rw [nextTick_of_le h]
    exact h

variable {start : α} {ends : List α} {i : Nat}

/-- The pass at a place is over only when the next deadline on the grid has come. -/
def Overruns (cycle start : α) (ends : List α) (i : Nat) : Prop :=
  ∃ deadline now, (deadlines cycle start ends)[i]? = some deadline ∧ ends[i]? = some now ∧
    deadline + cycle ≤ now

/-- The deadline at a place comes immediately after an overrun. -/
def Immediate (cycle start : α) (ends : List α) : Nat → Prop
  | 0 => False
  | i + 1 => Overruns cycle start ends i

/-- What a deadline comes to: the end of a pass that overran, or one cycle after the deadline
before. -/
theorem deadline_succ_cases {next : α}
    (hnext : (deadlines cycle start ends)[i + 1]? = some next) :
    (Overruns cycle start ends i ∧ ends[i]? = some next) ∨
      (¬ Overruns cycle start ends i ∧
        ∃ last, (deadlines cycle start ends)[i]? = some last ∧ next = last + cycle) := by
  obtain ⟨last, now, hlast, hnow, rfl⟩ := exists_of_getElem?_deadlines_succ hnext
  rcases lt_or_ge now (last + cycle) with h | h
  · refine .inr ⟨?_, last, hlast, nextTick_of_lt h⟩
    rintro ⟨last', now', hlast', hnow', hle⟩
    obtain rfl : last = last' := Option.some.inj (hlast.symm.trans hlast')
    obtain rfl : now = now' := Option.some.inj (hnow.symm.trans hnow')
    exact absurd h (not_lt.mpr hle)
  · rw [nextTick_of_le h]
    exact .inl ⟨⟨last, now, hlast, hnow, h⟩, hnow⟩

end Order

/-! ## Grids -/

section OnGrid

variable {α : Type} [AddCommMonoid α] {cycle origin time : α}

/-- A point of the grid that begins somewhere. -/
def OnGrid (origin cycle time : α) : Prop :=
  ∃ k : Nat, time = origin + k • cycle

theorem OnGrid.refl (origin cycle : α) : OnGrid origin cycle origin :=
  ⟨0, by rw [zero_nsmul, add_zero]⟩

theorem OnGrid.add_cycle (h : OnGrid origin cycle time) :
    OnGrid origin cycle (time + cycle) := by
  obtain ⟨k, rfl⟩ := h
  exact ⟨k + 1, by rw [succ_nsmul, add_assoc]⟩

end OnGrid

section GridBegins

variable {α : Type} [AddCommMonoid α] [LinearOrder α]
variable {cycle start deadline : α} {ends : List α} {i : Nat}

/-- A grid begins with the first deadline, and with each deadline that comes immediately after an
overrun. -/
inductive GridBegins (cycle start : α) (ends : List α) : Nat → α → Prop where
  | first : GridBegins cycle start ends 0 start
  | anew {i : Nat} {now : α} (hoverruns : Overruns cycle start ends i)
      (hnow : ends[i]? = some now) : GridBegins cycle start ends (i + 1) now

/-- A deadline lies on the last grid that has begun, as many cycles from its beginning as there were
passes since. -/
theorem exists_gridBegins (hdeadline : (deadlines cycle start ends)[i]? = some deadline) :
    ∃ j k origin, j + k = i ∧ GridBegins cycle start ends j origin ∧
      deadline = origin + k • cycle ∧ ∀ m, j ≤ m → m < i → ¬ Overruns cycle start ends m := by
  induction i generalizing deadline with
  | zero =>
    rw [getElem?_deadlines_zero] at hdeadline
    obtain rfl := Option.some.inj hdeadline
    exact ⟨0, 0, start, rfl, .first, by rw [zero_nsmul, add_zero], fun m _ hm => by omega⟩
  | succ i ih =>
    -- an overrun begins a grid, and otherwise the deadline is on the grid of the last one
    rcases deadline_succ_cases hdeadline with ⟨hoverruns, hnow⟩ | ⟨hon, last, hlast, rfl⟩
    · exact ⟨i + 1, 0, deadline, rfl, .anew hoverruns hnow, by rw [zero_nsmul, add_zero],
        fun m hle hlt => by omega⟩
    · obtain ⟨j, k, origin, hjk, hbegins, rfl, hnone⟩ := ih hlast
      refine ⟨j, k + 1, origin, by omega, hbegins, by rw [succ_nsmul, add_assoc], ?_⟩
      intro m hle hlt
      rcases Nat.lt_succ_iff_lt_or_eq.mp hlt with hm | rfl
      · exact hnone m hle hm
      · exact hon

end GridBegins

section Grids

variable {α : Type} [AddCommGroup α] [LinearOrder α] [IsOrderedAddMonoid α]
variable {cycle start deadline now : α} {ends : List α} {i : Nat}

/-- No deadline is before the start. -/
theorem start_le (hcycle : 0 < cycle)
    (hdeadline : (deadlines cycle start ends)[i]? = some deadline) : start ≤ deadline := by
  induction i generalizing deadline with
  | zero =>
    rw [getElem?_deadlines_zero] at hdeadline
    exact (Option.some.inj hdeadline).le
  | succ i ih =>
    obtain ⟨last, now, hlast, -, rfl⟩ := exists_of_getElem?_deadlines_succ hdeadline
    calc
      start ≤ last := ih hlast
      _ ≤ last + cycle := le_add_of_nonneg_right hcycle.le
      _ ≤ nextTick last cycle now := add_cycle_le_nextTick last cycle now

/-- The point before a point of a grid lies on it too, unless it lies before its beginning. -/
theorem OnGrid.of_add_cycle {origin time : α} (hcycle : 0 < cycle) (hle : origin ≤ time)
    (h : OnGrid origin cycle (time + cycle)) : OnGrid origin cycle time := by
  obtain ⟨k, hk⟩ := h
  cases k with
  | zero =>
    rw [zero_nsmul, add_zero] at hk
    have hlt : time < time + cycle := lt_add_of_pos_right time hcycle
    exact absurd (hlt.trans_eq hk) (not_lt.mpr hle)
  | succ k =>
    rw [succ_nsmul, ← add_assoc] at hk
    exact ⟨k, add_right_cancel hk⟩

/-- The deadlines keep to the first grid, immediate ones apart, just when every overrun whose grid
is used ends on a point of it. -/
theorem forall_onGrid_iff (hcycle : 0 < cycle) (start : α) (ends : List α) :
    (∀ i deadline, (deadlines cycle start ends)[i]? = some deadline →
        ¬ Immediate cycle start ends i → OnGrid start cycle deadline) ↔
      ∀ i now, Overruns cycle start ends i → ends[i]? = some now → i + 1 < ends.length →
        ¬ Overruns cycle start ends (i + 1) → OnGrid start cycle now := by
  constructor
  · intro hgrid i now hoverruns hnow hlt hpunctual
    obtain ⟨last, now', hlast, hnow', hle⟩ := hoverruns
    obtain rfl : now = now' := Option.some.inj (hnow.symm.trans hnow')
    have hnext := getElem?_deadlines_succ hlast hnow
    rw [nextTick_of_le hle] at hnext
    -- the deadline after the immediate one shows where the new grid lies
    have hlater := getElem?_deadlines_succ hnext (List.getElem?_eq_getElem hlt)
    rcases deadline_succ_cases hlater with ⟨hoverruns', -⟩ | ⟨-, now', hnow', hsum⟩
    · exact absurd hoverruns' hpunctual
    · obtain rfl : now = now' := Option.some.inj (hnext.symm.trans hnow')
      rw [hsum] at hlater
      have hstart : start ≤ now :=
        (start_le hcycle hlast).trans ((le_add_of_nonneg_right hcycle.le).trans hle)
      exact (hgrid (i + 2) _ hlater hpunctual).of_add_cycle hcycle hstart
  · intro hends i
    induction i with
    | zero =>
      intro deadline hdeadline _
      rw [getElem?_deadlines_zero] at hdeadline
      obtain rfl := Option.some.inj hdeadline
      exact .refl start cycle
    | succ i ih =>
      intro deadline hdeadline hpunctual
      rcases deadline_succ_cases hdeadline with ⟨hoverruns, -⟩ | ⟨-, last, hlast, rfl⟩
      · exact absurd hoverruns hpunctual
      · by_cases himmediate : Immediate cycle start ends i
        · cases i with
          | zero => cases himmediate
          | succ i =>
            have hlt : i + 1 < ends.length := by
              have hbound := (List.getElem?_eq_some_iff.mp hdeadline).1
              rw [length_deadlines] at hbound
              omega
            rcases deadline_succ_cases hlast with ⟨-, hnow⟩ | ⟨hon, -⟩
            · exact (hends i last himmediate hnow hlt hpunctual).add_cycle
            · exact absurd himmediate hon
        · exact (ih last hlast himmediate).add_cycle

end Grids

/-- A pass that is over five units after a point of the grid moves all later deadlines by five
units. -/
theorem late_pass_shifts_grid :
    ¬ ∀ (cycle start : Int) (ends : List Int), 0 < cycle → ends.Pairwise (· ≤ ·) →
      ∀ i deadline, (deadlines cycle start ends)[i]? = some deadline →
        ¬ Immediate cycle start ends i → OnGrid start cycle deadline := by
  intro hgrid
  have hpunctual : ¬ Immediate (10 : Int) 0 [25, 26] 2 := by
    rintro ⟨deadline, now, hdeadline, hnow, hle⟩
    obtain rfl : (25 : Int) = deadline := Option.some.inj hdeadline
    obtain rfl : (26 : Int) = now := Option.some.inj hnow
    omega
  obtain ⟨k, hk⟩ := hgrid 10 0 [25, 26] (by decide) (by decide) 2 35 (by decide) hpunctual
  rw [Int.nsmul_eq_mul] at hk
  omega

/-- **Every overrun begins a grid of its own.** Each deadline lies on the grid that begins with the
last immediate deadline before it, or with the first deadline of all when no pass has overrun yet:
it is as many cycles from there as there were passes since. The deadlines that are not immediate
all lie on the first grid just when every overrun that is followed by a pass in time is over on a
point of that grid. -/
theorem deadlines_on_grids {α : Type} [AddCommGroup α] [LinearOrder α] [IsOrderedAddMonoid α]
    {cycle : α} (hcycle : 0 < cycle) (start : α) (ends : List α) :
    (∀ i deadline, (deadlines cycle start ends)[i]? = some deadline →
      ∃ j k origin, j + k = i ∧ GridBegins cycle start ends j origin ∧
        deadline = origin + k • cycle ∧ ∀ m, j ≤ m → m < i → ¬ Overruns cycle start ends m) ∧
    ((∀ i deadline, (deadlines cycle start ends)[i]? = some deadline →
        ¬ Immediate cycle start ends i → OnGrid start cycle deadline) ↔
      ∀ i now, Overruns cycle start ends i → ends[i]? = some now → i + 1 < ends.length →
        ¬ Overruns cycle start ends (i + 1) → OnGrid start cycle now) :=
  ⟨fun _ _ hdeadline => exists_gridBegins hdeadline, forall_onGrid_iff hcycle start ends⟩

/-- An overrun at 25 begins a grid of its own. -/
theorem deadlines_on_grids_after_late_pass :
    (0 : Int) < 10 ∧ ∃ j k origin, j + k = 2 ∧ GridBegins 10 0 [25, 26] j origin ∧
      35 = origin + k • (10 : Int) ∧ ∀ m, j ≤ m → m < 2 → ¬ Overruns (10 : Int) 0 [25, 26] m :=
  ⟨by decide, (deadlines_on_grids (by decide) 0 [25, 26]).1 2 35 (by decide)⟩

end Schedule

/-! ## The loop of checks -/

namespace Session

open Monitor (leadsOn_goesOn)

/-- A pass of checks leaves the cycle as it is. -/
theorem cycle_checkAll (m : Monitor) (now : Moment) : (m.checkAll now).2.1.cycle = m.cycle := by
  have hgoes : m.GoesOn (m.checkAll now).2.1 := leadsOn_goesOn.checkAll m now
  rw [hgoes.eq]

/-- A loop that goes through all its rounds waits for the deadlines of the schedule that the ends of
its checks decide on. -/
theorem rounds_follow {s s' : Session} {deadline : Binary64} {waits checkedAt : List Binary64}
    {rs : List Round} {ws cs : List Binary64} {entries : List Entry}
    (h : s.rounds deadline waits checkedAt rs = (.loop ws cs, s', entries)) :
    ∃ starts ends, starts.length = rs.length ∧
      ends = List.zipWith (fun begun r => begun + r.cost) starts rs ∧
      cs = checkedAt ++ starts ∧
      ws = waits ++ List.zipWith timeLeft
        (Schedule.deadlines s.monitor.cycle deadline ends) (s.steady :: ends) := by
  induction rs generalizing s deadline waits checkedAt entries with
  | nil =>
    cases h
    exact ⟨[], [], rfl, rfl, (List.append_nil _).symm, rfl⟩
  | cons r rest ih =>
    let late : Session := { s with steady := s.steady + (timeLeft deadline s.steady + r.late) }
    simp only [rounds] at h
    cases hadvance : (late.packets r.packets).1.advance r.clock with
    | none =>
      rw [hadvance] at h
      cases h
    | some s₁ =>
      rw [hadvance] at h
      dsimp only at h
      have hcycle : (s₁.monitor.checkAll s₁.now).2.1.cycle = s.monitor.cycle := by
        rw [cycle_checkAll, monitor_of_advance hadvance,
          (leadsOn_goesOn.packets late r.packets).eq]
      rcases hresult : s₁.monitor.checkAll s₁.now with ⟨_ | _, m, checked⟩
      · rw [hresult] at h
        cases h
      · rw [hresult] at h hcycle
        dsimp only at h hcycle
        -- the rest of the loop starts from the deadline that the end of this check decides on
        let ended : Binary64 := s₁.steady + r.cost
        let next := Schedule.nextTick deadline m.cycle ended
        rcases hrest : rounds ⟨m, s₁.now, ended⟩ next (waits ++ [timeLeft deadline s.steady])
          (checkedAt ++ [s₁.steady]) rest with ⟨reply, s₂, later⟩
        rw [hrest] at h
        cases h
        obtain ⟨starts, ends, hlength, hends, rfl, rfl⟩ := ih hrest
        refine ⟨s₁.steady :: starts, ended :: ends, ?_, ?_, ?_, ?_⟩
        · rw [List.length_cons, hlength, List.length_cons]
        · rw [List.zipWith_cons_cons, ← hends]
        · rw [List.append_assoc, List.singleton_append]
        · rw [Schedule.deadlines, List.zipWith_cons_cons, List.append_assoc,
            List.singleton_append, ← hcycle]

end Session
end EchoWatch
