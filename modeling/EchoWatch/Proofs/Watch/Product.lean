import EchoWatch.Proofs.Watch.Build
import EchoWatch.Proofs.Watch.Course
/-!
# A board is the product of its peers

Packets, readings of the clock and checks come in any order, and the ranges of peers may overlap.
Still each peer lives by itself: after any run its stamp and its debouncer are what its own part of
the run makes of them. What the peers share is how far a check gets.

* **`Course.step_state`**: one step of a board is one more step of every peer's own history.
* **`Course.after_eq`**: so is a whole run.
* **`Course.reach_eq_length`**: where the thresholds of all peers can be written and the clock
  always shows a zone, every check gets past all of them.
-/

namespace EchoWatch

/-- A sighting at a free gate is noted. -/
theorem Peer.markSeen_of_free {p : Peer} (h : p.gate = .free) (now : Moment) :
    p.markSeen now = { p with lastSeen := some now } := by
  obtain ⟨name, range, webhook, debouncer, lastSeen, gate⟩ := p
  obtain rfl : gate = .free := h
  rfl

namespace Board

/-- The course of a run that starts at a board. -/
def course (b : Board) (opening : Moment) : Course :=
  ⟨b.roster, b.timeout, opening⟩

/-! ## One step -/

/-- The peers of a course start fresh. -/
def Course.Fresh (c : Course) : Prop :=
  ∀ p ∈ c.roster.peers, p.Fresh

theorem fresh_course {c : Settings} {verbose : Bool} {m : Monitor}
    (h : m.BuiltFrom c verbose) (start : Moment) : (m.board.course start).Fresh :=
  h.fresh

/-- The state that a course has come to. -/
def Course.state (c : Course) (verbose : Bool) (steps : List Step) : State :=
  ⟨⟨⟨c.peersAfter steps⟩, c.timeout, verbose⟩, c.clock steps⟩

namespace Course

variable {c : Course} {verbose : Bool} {steps : List Step}

theorem getElem?_peersAfter (i : Nat) :
    (c.peersAfter steps)[i]? = (c.roster.peers[i]?).map (c.peerAfter steps i) := by
  rw [peersAfter, List.getElem?_mapIdx]

/-- A peer after some steps has come of a peer of the roster. -/
theorem exists_of_mem_peersAfter {p : Peer} (h : p ∈ c.peersAfter steps) :
    ∃ i q, c.roster.peers[i]? = some q ∧ p = c.peerAfter steps i q := by
  obtain ⟨i, hi⟩ := List.getElem?_of_mem h
  rw [getElem?_peersAfter] at hi
  obtain ⟨q, hq, hp⟩ := Option.map_eq_some_iff.mp hi
  exact ⟨i, q, hq, hp.symm⟩

theorem limits_peerAfter (i : Nat) (p : Peer) :
    (c.peerAfter steps i p).debouncer.limits = p.debouncer.limits :=
  Debouncer.observeAll_limits _ _

/-- Peers are compared place by place. -/
theorem eq_peersAfter {peers : List Peer}
    (h : ∀ i, peers[i]? = (c.roster.peers[i]?).map (c.peerAfter steps i)) :
    peers = c.peersAfter steps := by
  apply List.ext_getElem?
  intro i
  rw [h, getElem?_peersAfter]

/-- Steps that lead every peer to the same state lead to the same peers. -/
theorem peersAfter_congr {steps' : List Step}
    (h : ∀ i p, c.peerAfter steps i p = c.peerAfter steps' i p) :
    c.peersAfter steps = c.peersAfter steps' := by
  apply eq_peersAfter
  intro i
  rw [getElem?_peersAfter]
  congr 1
  exact funext (h i)

/-- Fresh peers are as they are after no steps. -/
theorem peersAfter_nil (h : c.Fresh) : c.roster.peers = c.peersAfter [] := by
  apply eq_peersAfter
  intro i
  cases hp : c.roster.peers[i]? with
  | none => rfl
  | some p =>
    have hlast : p.lastSeen = none := (h p (List.mem_of_getElem? hp)).lastSeen
    simp only [Option.map_some, peerAfter, lastSeen_nil, observations_nil, ← hlast]
    rfl

/-- Runs leave the ranges alone, so packets always go where they went in the beginning. -/
theorem route_peersAfter (address : String) :
    Roster.route ⟨c.peersAfter steps⟩ address = c.roster.route address := by
  apply Roster.route_congr
  apply List.ext_getElem?
  intro i
  rw [List.getElem?_map, List.getElem?_map, getElem?_peersAfter, Option.map_map]
  rfl

/-- The peers of an aware course are aware. -/
theorem Aware.peersAfter (h : c.Aware steps) : ∀ p ∈ c.peersAfter steps, p.Aware := by
  intro p hp
  obtain ⟨i, q, -, rfl⟩ := exists_of_mem_peersAfter hp
  exact h.lastSeen i

/-- A packet changes the one peer that it is routed to. -/
theorem packet_state (hfresh : c.Fresh) (address : String) :
    (c.state verbose steps).board.packet (c.clock steps) address =
      (c.state verbose (steps ++ [.packet address])).board := by
  unfold Board.packet state
  simp only [route_peersAfter]
  -- a packet feeds one peer, or nobody
  cases hroute : c.roster.route address with
  | unreadable | unmatched =>
    simp only [Board.mk.injEq, Roster.mk.injEq, and_true]
    apply peersAfter_congr
    intro i p
    rw [peerAfter_snoc_packet, if_neg (by simp [hroute])]
  | peer k =>
    simp only [Board.mk.injEq, Roster.modify, Roster.mk.injEq, and_true]
    apply eq_peersAfter
    intro i
    rw [List.getElem?_modify, getElem?_peersAfter]
    cases hp : c.roster.peers[i]? with
    | none => rfl
    | some p =>
      have hgate : (c.peerAfter steps i p).gate = .free := (hfresh p (List.mem_of_getElem? hp)).gate
      simp only [Option.map_some, Option.map_eq_map, peerAfter_snoc_packet, hroute,
        Roster.Route.peer.injEq, Option.some.injEq]
      split
      · exact Peer.markSeen_of_free hgate _
      · rfl

/-- A check feeds every peer that it gets past its own observation. -/
theorem check_state (hreach : c.reach steps = (c.state verbose steps).reach) :
    (c.state verbose steps).board.afterPass (c.clock steps) =
      (c.state verbose (steps ++ [.check])).board := by
  have hpeers : Pass.after c.timeout (c.clock steps) (c.peersAfter steps) =
      c.peersAfter (steps ++ [.check]) := by
    apply eq_peersAfter
    intro i
    rw [Pass.getElem?_after, getElem?_peersAfter, Option.map_map]
    congr 1
    funext p
    rw [peerAfter_snoc_check, hreach]
    rfl
  simp only [state, afterPass, hpeers]

/-- **One step** of a board is one more step of every peer's own history. -/
theorem step_state (hfresh : c.Fresh) (hreach : c.reach steps = (c.state verbose steps).reach)
    (step : Step) : (c.state verbose steps).step step = c.state verbose (steps ++ [step]) := by
  cases step with
  | clock now =>
    -- the clock moves nobody
    have hpeers : c.peersAfter (steps ++ [.clock now]) = c.peersAfter steps :=
      peersAfter_congr fun i p => c.peerAfter_snoc_clock i steps now p
    simp [State.step, state, hpeers]
  | packet address =>
    have hboard : (c.state verbose steps).board.packet (c.clock steps) address = _ :=
      packet_state hfresh address
    rw [State.step, show (c.state verbose steps).now = c.clock steps from rfl, hboard]
    simp [state]
  | check =>
    have hboard : (c.state verbose steps).board.afterPass (c.clock steps) = _ := check_state hreach
    rw [State.step, show (c.state verbose steps).now = c.clock steps from rfl, hboard]
    simp [state]

/-! ## Every run -/

/-- **The product.** A run from a board of fresh peers leads to the state of its course. -/
theorem after_eq (hfresh : c.Fresh) (verbose : Bool) (steps : List Step) :
    (State.mk ⟨c.roster, c.timeout, verbose⟩ c.opening).after steps = c.state verbose steps := by
  induction steps using List.reverseRecOn generalizing verbose with
  | nil =>
    have hpeers : c.roster.peers = c.peersAfter [] := peersAfter_nil hfresh
    rw [state, ← hpeers]
    rfl
  | append_singleton steps step ih =>
    -- how far a check gets can be seen on any board that has come along the course
    have hreach : c.reach steps = (c.state verbose steps).reach := by
      rw [reach, ih]
      rfl
    rw [State.after_snoc, ih, step_state hfresh hreach]

/-- How far a check gets is decided by the peers that the course has led to. -/
theorem reach_eq (hfresh : c.Fresh) (steps : List Step) :
    c.reach steps = (Pass.cleared c.timeout (c.clock steps) (c.peersAfter steps)).length := by
  rw [reach, after_eq hfresh]
  rfl

/-! ## Checks without an obstacle -/

/-- The thresholds of all peers can be written. -/
def Writable (c : Course) : Prop :=
  ∀ p ∈ c.roster.peers, Debouncer.Writable p.debouncer.limits

/-- A peer that can be compared and whose thresholds can be written is never an obstacle. -/
theorem obstacle?_eq_none_of_writable (hfresh : c.Fresh) (h : c.Aware steps) {p : Peer}
    (hp : p ∈ c.peersAfter steps) (hlimits : Debouncer.Writable p.debouncer.limits) :
    p.obstacle? c.timeout (c.clock steps) = none := by
  have hcomparable := (h.peersAfter p hp).comparable h.clock
  obtain ⟨i, q, hq, rfl⟩ := exists_of_mem_peersAfter hp
  have hstart := (hfresh q (List.mem_of_getElem? hq)).debouncer
  rw [limits_peerAfter] at hlimits
  refine Peer.obstacle?_eq_none_iff.mpr ⟨hcomparable, ?_, ?_⟩
  · rw [peerAfter, hstart]
    exact Debouncer.legible_observeAll hlimits _
  · -- the state that the check leads to is reached by one more observation
    rw [Peer.checked, Peer.observe, peerAfter, hstart, ← Debouncer.observeAll_snoc]
    exact Debouncer.legible_observeAll hlimits _

/-- **Checks get to their end** where all thresholds can be written. -/
theorem reach_eq_length (hfresh : c.Fresh) (h : c.Aware steps) (hwritable : c.Writable) :
    c.reach steps = c.roster.peers.length := by
  rw [reach_eq hfresh, Pass.cleared_eq_self, length_peersAfter]
  intro p hp
  refine obstacle?_eq_none_of_writable hfresh h hp ?_
  obtain ⟨i, q, hq, rfl⟩ := exists_of_mem_peersAfter hp
  rw [limits_peerAfter]
  exact hwritable q (List.mem_of_getElem? hq)

end Course

end Board
end EchoWatch
