import EchoWatch.Proofs.Watch.Ingestion
import EchoWatch.Watch.Life
import Mathlib.Logic.Relation
/-!
# What a monitor can come to

A `Step` is one thing that happens to a monitor, at any reading of the clock: a packet, a check of
one peer or of all of them, the beginning or the end of listening, a delivery. What `Reaches` says
of a monitor thus holds whatever the clock does, and whichever threads share the monitor.

* **`Session.reaches_call`**, **`Session.reaches_listen`**, **`Life.reaches_after`**: the calls of a
  session, a stretch of listening and the events of a life are nothing but such steps.
* **`Monitor.AtRest.reaches`**: between two steps nobody is at the gate of a peer, and the outbox is
  in order.
-/

namespace EchoWatch

/-! ## Steps -/

namespace Monitor

/-- One thing that happens to a monitor. -/
inductive Step : Monitor → Monitor → Prop where
  | packet (m : Monitor) (now : Moment) (address : String) : Step m (m.packet now address).2.1
  /-- One peer is checked. A pass is as many steps as there are checks. -/
  | check {m : Monitor} {now : Moment} {i : Nat}
      {checked : Except CheckError (Option Notice) × Monitor × List Entry}
      (h : m.checkAt now i = some checked) : Step m checked.2.1
  | start (m : Monitor) (refusal : Option Trouble) : Step m (m.start refusal).2.1
  | stop (m : Monitor) : Step m m.stop.1
  | teardown (m : Monitor) : Step m m.teardown.1
  /-- The worker of the outbox delivers a job. -/
  | deliver {m : Monitor} {worked : Sent × List Entry × Outbox} (h : m.outbox.work = some worked) :
      Step m { m with outbox := worked.2.2 }

/-- Steps lead from the one monitor to the other. -/
abbrev Reaches : Monitor → Monitor → Prop :=
  Relation.ReflTransGen Step

/-- An attempt to listen is one step. -/
theorem reaches_of_start {m m' : Monitor} {refusal : Option Trouble} {result : Start}
    {entries : List Entry} (h : m.start refusal = (result, m', entries)) : m.Reaches m' := by
  have hstep : m.Step (m.start refusal).2.1 := .start m refusal
  rw [h] at hstep
  exact .single hstep

end Monitor

/-! ## Between two steps

Two things hold of a monitor whenever nobody is at work on it. Each kind of step keeps them; that
the steps may be taken by several threads plays no part. -/

/-- Nobody is at the gate of a peer. -/
def Board.Free (b : Board) : Prop :=
  ∀ p ∈ b.roster.peers, p.gate = .free

namespace Board.Free

variable {b : Board}

/-- A packet leaves the gate of its peer free again. -/
theorem packet (h : b.Free) (now : Moment) (address : String) : (b.packet now address).Free := by
  unfold Board.packet
  split
  next i _ =>
    intro q hq
    obtain ⟨j, hj⟩ := List.getElem?_of_mem hq
    rw [Roster.modify, List.getElem?_modify] at hj
    obtain ⟨p, hp, rfl⟩ := Option.map_eq_some_iff.mp hj
    -- the peer at this place had a free gate, so its sighting was let in
    have hgate := h p (List.mem_of_getElem? hp)
    split
    · rw [Peer.markSeen_of_free hgate]
      exact hgate
    · exact hgate
  · exact h

/-- A peer with a free gate may take the place of another. -/
theorem setPeer (h : b.Free) (i : Nat) {p : Peer} (hp : p.gate = .free) : (b.setPeer i p).Free := by
  intro q hq
  rcases List.mem_or_eq_of_mem_set hq with hq | rfl
  · exact h q hq
  · exact hp

end Board.Free

namespace Monitor

/-- Nobody is at the gate of a peer, and the outbox is in order. -/
structure AtRest (m : Monitor) : Prop where
  board : m.board.Free
  outbox : m.outbox.Orderly

theorem BuiltFrom.atRest {c : Settings} {verbose : Bool} {m : Monitor}
    (h : m.BuiltFrom c verbose) : m.AtRest :=
  ⟨fun p hp => (h.fresh p hp).gate, h.running.orderly⟩

namespace AtRest

variable {m m' : Monitor}

/-- A check leaves the gate of its peer, whatever comes of it. -/
theorem checkAt (h : m.AtRest) {now : Moment} {i : Nat}
    {checked : Except CheckError (Option Notice) × Monitor × List Entry}
    (hchecked : m.checkAt now i = some checked) : checked.2.1.AtRest := by
  obtain ⟨p, hp, -⟩ := Option.map_eq_some_iff.mp hchecked
  have hgate := h.board p (List.mem_of_getElem? hp)
  cases hobstacle : p.obstacle? m.board.timeout now with
  | some e =>
    rw [checkAt_of_obstacle hp hobstacle] at hchecked
    obtain rfl := Option.some.inj hchecked
    exact h
  | none =>
    rw [checkAt_of_clear h.outbox hp hobstacle] at hchecked
    obtain rfl := Option.some.inj hchecked
    exact ⟨h.board.setPeer i hgate, h.outbox.taking _⟩

/-- The end closes the outbox, which stays in order. -/
theorem teardown (h : m.AtRest) : m.teardown.1.AtRest := by
  cases htorn : m.tornDown with
  | true =>
    rw [teardown_of_tornDown htorn]
    exact h
  | false =>
    rw [teardown_of_standing htorn]
    exact ⟨h.board, fun _ => rfl⟩

/-- A stop makes the end or leaves a mark. -/
theorem stop (h : m.AtRest) : m.stop.1.AtRest := by
  have hstopping : Monitor.AtRest { m with stopping := true } := ⟨h.board, h.outbox⟩
  cases hlistening : m.listening with
  | true =>
    rw [stop_of_listening hlistening]
    exact hstopping.teardown
  | false =>
    rw [stop_of_deaf hlistening]
    exact hstopping

/-- Whether a source is opened or not, the board is as it was. -/
theorem start (h : m.AtRest) (refusal : Option Trouble) : (m.start refusal).2.1.AtRest := by
  -- in each of the four cases the board stays, and the outbox is closed or kept
  cases hcalled : m.listenCalled with
  | true =>
    rw [start_of_called refusal hcalled]
    exact h
  | false =>
    cases hstopping : m.stopping with
    | true =>
      rw [start_of_stopping refusal hcalled hstopping]
      exact ⟨h.board, fun _ => rfl⟩
    | false =>
      cases refusal with
      | some e =>
        rw [start_refused hcalled hstopping e]
        exact ⟨h.board, fun _ => rfl⟩
      | none =>
        rw [start_opened hcalled hstopping]
        exact ⟨h.board, h.outbox⟩

/-- A delivery takes a job out of the queue. -/
theorem deliver (h : m.AtRest) {worked : Sent × List Entry × Outbox}
    (hwork : m.outbox.work = some worked) : AtRest { m with outbox := worked.2.2 } := by
  refine ⟨h.board, ?_⟩
  obtain ⟨⟨job, o⟩, htake, rfl⟩ := Option.map_eq_some_iff.mp hwork
  unfold Outbox.take at htake
  split at htake
  · cases htake
  · -- only the queue and the carrier are different
    cases htake
    exact h.outbox

/-- **Every step keeps a monitor at rest.** One case for each kind. -/
theorem step (h : m.AtRest) (hstep : m.Step m') : m'.AtRest := by
  cases hstep with
  | packet now address => exact ⟨h.board.packet now address, h.outbox⟩
  | check hchecked => exact h.checkAt hchecked
  | start refusal => exact h.start refusal
  | stop => exact h.stop
  | teardown => exact h.teardown
  | deliver hwork => exact h.deliver hwork

/-- However many steps are taken, a monitor is at rest after the last one. -/
theorem reaches (h : m.AtRest) (hreach : m.Reaches m') : m'.AtRest := by
  induction hreach with
  | refl => exact h
  | tail _ hstep ih => exact ih.step hstep

end AtRest
end Monitor

/-! ## Sessions take steps

A call of a session is a few steps, at the reading of the clock that the session has. -/

namespace Session

/-- Packets and checks are steps. -/
theorem leadsOn_reaches : Monitor.LeadsOn Monitor.Reaches where
  refl _ := .refl
  trans := .trans
  packet m now address := .single (.packet m now address)
  checkAt h := .single (.check h)

/-- A call takes steps, one or none except for a pass. -/
theorem reaches_call (s : Session) (c : Call) : s.monitor.Reaches (s.call c).2.1.monitor := by
  cases c with
  | close =>
    simp only [call]
    cases hlistening : s.monitor.listening with
    | false => rw [Monitor.close_of_deaf hlistening]
    | true =>
      rw [Monitor.close_of_listening hlistening]
      exact .single (.teardown _)
  | stop => exact .single (.stop _)
  | listenAgain =>
    simp only [call]
    rcases hresult : s.monitor.start none with ⟨_ | _ | _ | _, m, entries⟩ <;>
      exact Monitor.reaches_of_start hresult
  | _ => exact leadsOn_reaches.call s rfl rfl

theorem reaches_ingest (s : Session) (arrivals : List Arrival) :
    s.monitor.Reaches (s.ingest arrivals).2.1.monitor := by
  induction arrivals generalizing s with
  | nil =>
    simp only [ingest]
    split
    · exact .refl
    · exact .single (.stop _)
  | cons a rest ih =>
    cases a with
    | address a => exact .head (.packet s.monitor s.now a) (ih (s.packet a).2.1)
    | failure _ _ => exact .refl
    | call c => exact (s.reaches_call c).trans (ih (s.call c).2.1)

theorem reaches_listen (s : Session) (arrivals : List Arrival) (refusal : Option Monitor.Trouble) :
    s.monitor.Reaches (s.listen arrivals refusal).2.1.monitor := by
  simp only [listen]
  rcases hresult : s.monitor.start refusal with ⟨_ | _ | _ | _, m, entries⟩
  case opened =>
    have hopened : s.monitor.Reaches m := Monitor.reaches_of_start hresult
    let opened : Session := { s with monitor := m }
    have hingest : m.Reaches (opened.ingest arrivals).2.1.monitor := opened.reaches_ingest arrivals
    exact (hopened.trans hingest).tail (.teardown _)
  all_goals exact Monitor.reaches_of_start hresult

end Session

/-! ## Lives take steps -/

namespace Life

theorem reaches_act (l : Life) (e : Event) :
    l.session.monitor.Reaches (l.act e).2.session.monitor := by
  cases e with
  | setClock now => exact l.session.reaches_call (.setClock now)
  | packet address => exact l.session.reaches_call (.packet address)
  | checkAll => exact l.session.reaches_call .checkAll
  | close => exact l.session.reaches_call .close
  | stop => exact l.session.reaches_call .stop
  | listen refusal =>
    simp only [act, listen]
    rcases hresult : l.session.monitor.start refusal with ⟨_ | _ | _ | _, m, entries⟩ <;>
      exact Monitor.reaches_of_start hresult
  | arrive address =>
    simp only [act]
    split
    · exact .single (.packet _ _ _)
    · exact .refl
  | fail systemError e =>
    simp only [act]
    split
    · exact .single (.teardown _)
    · exact .refl
  | begin =>
    simp only [act]
    split
    · split <;> exact .refl
    · exact .refl
  | next =>
    simp only [act]
    split
    next i _ =>
      simp only [check]
      cases hcheck : l.session.monitor.checkAt l.session.now i with
      | none => exact .refl
      | some checked =>
        -- the loop may end here, but the monitor has taken its step all the same
        have hchecked : l.session.monitor.Reaches checked.2.1 := .single (.check hcheck)
        obtain ⟨_ | _, m, entries⟩ := checked <;> exact hchecked
    · exact .refl
  | deliver =>
    simp only [act, deliver]
    cases hwork : l.session.monitor.outbox.work with
    | none => exact .refl
    | some worked => exact .single (.deliver hwork)

/-- **A life takes steps only.** Induction on its events. -/
theorem reaches_after (l : Life) (events : List Event) :
    l.session.monitor.Reaches (l.after events).session.monitor := by
  induction events generalizing l with
  | nil => exact .refl
  | cons e events ih => exact (l.reaches_act e).trans (ih (l.act e).2)

end Life
end EchoWatch
