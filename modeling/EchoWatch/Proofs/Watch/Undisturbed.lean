import EchoWatch.Proofs.Watch.Ingestion
import EchoWatch.Proofs.Watch.Life
/-!
# Threads that nobody comes between

A life runs the threads of a monitor event by event, while a session runs each of them by itself.
Where no other thread comes in between, the two agree.

* **`after_pass`**: a pass of the loop is a check of all peers.
* **`after_listen`**: a stretch of listening in which arrivals and calls come one after the other is
  what `Session.listen` makes of them.
-/

namespace EchoWatch

/-! ## Passes -/

namespace Life

/-- A loop that is over checks nobody. -/
theorem after_next_of_absent {l : Life} (h : l.loop = .absent) (n : Nat) :
    l.after (List.replicate n .next) = l := by
  induction n with
  | zero => rfl
  | succ n ih =>
    rw [List.replicate_succ, after_cons]
    simp only [act, h]
    exact ih

/-- The loop checks the peers that are left, up to the first check that fails. Induction on these
peers: every move of the loop is the next check of `checkEach`. -/
theorem after_checks {l : Life} {i n : Nat} (hloop : l.loop = .checking i)
    (hn : l.session.monitor.board.roster.peers.length = i + n) :
    let checked := l.session.monitor.checkEach l.session.now (List.range' i n)
    l.after (List.replicate (n + 1) .next) =
      { l.withMonitor checked.2.1 with
        loop := match checked.1 with
          | .ok _ => .waiting
          | .error _ => .absent } := by
  induction n generalizing l i with
  | zero =>
    have hnone : l.session.monitor.checkAt l.session.now i = none :=
      Monitor.checkAt_eq_none_iff.mpr (by omega)
    simp only [List.replicate_succ, List.replicate_zero, after_cons, act, hloop, check, hnone]
    rfl
  | succ n ih =>
    intro checked
    rw [List.replicate_succ, after_cons]
    simp only [act, hloop, check, checked, List.range'_succ, Monitor.checkEach]
    rcases hcheck : l.session.monitor.checkAt l.session.now i with _ | ⟨e | notice, m, entries⟩
    · have hlen := Monitor.checkAt_eq_none_iff.mp hcheck
      omega
    · exact after_next_of_absent rfl _
    · -- the check has left as many peers as there were
      have hlen : m.board.roster.peers.length = i + 1 + n := by
        rw [Monitor.length_of_checkAt hcheck]
        omega
      exact ih (l := { l.withMonitor m with loop := .checking (i + 1) }) rfl hlen

/-- A pass that nobody comes between is a check of all peers. The loop waits after it, unless a
check has failed. -/
theorem after_pass {l : Life} (hloop : l.loop = .waiting)
    (hrunning : l.session.monitor.stopping = false) :
    let size := l.session.monitor.board.roster.peers.length
    let l' := l.after (.begin :: List.replicate (size + 1) .next)
    l'.session = (l.act .checkAll).2.session ∧
      l'.loop = match (l.session.monitor.checkAll l.session.now).1 with
        | .ok _ => .waiting
        | .error _ => .absent := by
  intro size l'
  -- one event for every peer, and one that finds no peer and ends the pass
  let begun : Life := { l with loop := .checking 0 }
  have hbegin : (l.act .begin).2 = begun := by
    simp only [act, hloop, hrunning]
    rfl
  have hafter := after_checks (l := begun) (i := 0) (n := size) rfl (Nat.zero_add size).symm
  have hl' : l' = begun.after (List.replicate (size + 1) .next) := by
    rw [← hbegin]
    rfl
  rw [← List.range_eq_range'] at hafter
  rw [hl', hafter]
  exact ⟨rfl, rfl⟩

/-! ## Listening -/

/-- What an event is for those who listen. -/
def Event.arrival? : Event → Option Session.Arrival
  | .setClock now => some (.call (.setClock now))
  | .packet address => some (.call (.packet address))
  | .checkAll => some (.call .checkAll)
  | .close => some (.call .close)
  | .stop => some (.call .stop)
  | .arrive address => some (.address address)
  | _ => none

/-- Those who listen take what arrives. -/
theorem after_arrivals {l : Life} (hstage : l.stage = .receiving) {events : List Event}
    (hevents : ∀ e ∈ events, e.arrival?.isSome = true) :
    let calls := (events.filterMap Event.arrival?).filterMap Session.Arrival.call?
    l.after events = { l with session := l.session.afterCalls calls } := by
  induction events generalizing l with
  | nil => rfl
  | cons e events ih =>
    -- an event that arrives is a call, made at the time of its arrival
    have hlater := fun e' he' => hevents e' (List.mem_cons_of_mem e he')
    cases e with
    | setClock _ | packet _ | checkAll | close | stop => exact ih hstage hlater
    | arrive address =>
      rw [after_cons]
      simp only [act, hstage]
      exact ih rfl hlater
    | listen _ | fail _ _ | begin | next | deliver => cases hevents _ List.mem_cons_self

/-- A stretch of listening in which nothing but calls comes between the arrivals. -/
theorem after_listen {s : Session} (h : s.Waiting) {events : List Event}
    (hevents : ∀ e ∈ events, e.arrival?.isSome = true) (systemError : Bool) (e : Monitor.Trouble) :
    let l := (Life.new s).after (.listen none :: (events ++ [.fail systemError e]))
    let listened := s.listen (events.filterMap Event.arrival? ++ [.failure systemError e]) none
    l.session = listened.2.1 ∧ l.stage = .finished listened.1.error := by
  intro l listened
  have harrivals : ∀ a ∈ events.filterMap Event.arrival?, a.call?.isSome = true := by
    intro a ha
    obtain ⟨e', -, he'⟩ := List.mem_filterMap.mp ha
    cases e' <;> cases he' <;> rfl
  obtain ⟨herror, hsession⟩ := h.listen_eq harrivals systemError e []
  -- the source is opened first, then everything arrives, and at last it fails
  let receiving : Life := ⟨s.opened, .receiving, .waiting, 1⟩
  have hopens : s.monitor.opens = true := by
    rw [Monitor.opens, h.listenCalled, h.stopping]
    rfl
  have hlisten : ((Life.new s).act (.listen none)).2 = receiving := by
    simp only [act, listen, Life.new, Monitor.start_opened h.listenCalled h.stopping, hopens]
    rfl
  have hl : l = ((receiving.after events).act (.fail systemError e)).2 := by
    rw [← hlisten, ← after_snoc]
    rfl
  rw [hl, after_arrivals rfl hevents, show listened.2.1 = _ from hsession,
    show listened.1.error = _ from herror]
  exact ⟨rfl, rfl⟩

end Life
end EchoWatch
