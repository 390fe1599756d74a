import EchoWatch.Proofs.Watch.Record
/-!
# Notices carry their evidence

A notice tells a state and the moment of the last packet. Both come from one look at the peer, so
that they agree: a notice of a state on the way up has a packet that is recent enough, and a notice
of a state on the way down has one that is not.

* **`Course.down_of_unseen`**: a peer without a packet is down and stays so, hence is never told of.
* **`Peer.evident_of_due`**: what a check tells is `Notice.Evident`.
* **`Session.passes_evident`**: so is everything that any run of a monitor hands over.
-/

namespace EchoWatch

/-! ## Notices -/

/-- A notice begins with the year when a peer was last seen, and no year reads like a word. -/
theorem Moment.pretty_ne_never (m : Moment) : m.pretty ≠ "never" := by
  intro h
  have hchars := congrArg String.toList h
  have hdash : '-' ∈ m.pretty.toList := by simp [Moment.pretty]
  rw [hchars] at hdash
  exact absurd hdash (by decide)

/-- A notice about peer `name` whose last packet bears out the state that it tells. -/
structure Notice.Evident (name : String) (timeout : Micros) (n : Notice) : Prop where
  title : n.title = "Peer " ++ name ++ " is " ++ n.newState
  text : n.text = name ++ " (last seen " ++ Notice.lastSeenText n.lastSeen ++
    ") was previously " ++ n.prevState ++ " and is now " ++ n.newState
  flawless : n.flaw? = none
  changed : n.prevState ≠ n.newState
  evidence : ∃ last elapsed, n.lastSeen = some last ∧ Notice.lastSeenText n.lastSeen ≠ "never" ∧
    n.timestamp.elapsed? last = some elapsed ∧
    (elapsed < timeout ↔ n.newState = "Up" ∨ "Maybe Up".toList <+: n.newState.toList) ∧
    (timeout ≤ elapsed ↔ n.newState = "Down" ∨ "Maybe Down".toList <+: n.newState.toList)

/-! ## One check -/

namespace Peer

variable {timeout : Micros} {now : Moment} {p : Peer}

theorem latest_checked :
    (p.checked timeout now).debouncer.phase.latest = recent timeout now p.lastSeen :=
  (p.debouncer.move _).latest_eq

/-- A check of a peer that was never seen leaves it down. -/
theorem checked_of_unseen (hlast : p.lastSeen = none) (hdown : p.debouncer.phase = .down) :
    p.checked timeout now = p := by
  obtain ⟨name, range, webhook, ⟨phase, limits⟩, last, gate⟩ := p
  obtain rfl : last = none := hlast
  obtain rfl : phase = .down := hdown
  rfl

/-- What is told of a peer has no flaw. -/
theorem flaw?_told (timeout : Micros) (now : Moment) (p : Peer) :
    (p.told timeout now).notice.flaw? = none := by
  have hnew : (p.checked timeout now).debouncer.wording ≠ "" := Debouncer.wording_ne_empty _
  have hflaw := Notice.flaw?_ofTransition p.name (p.checked timeout now).debouncer.wording
    p.lastSeen now p.debouncer.wording_ne_empty
  rwa [if_neg hnew] at hflaw

/-- **What a check tells is evident.** -/
theorem evident_of_due (hdown : p.lastSeen = none → p.debouncer.phase = .down) (hp : p.Aware)
    (hnow : now.Aware) {verbose : Bool} {posting : Posting}
    (h : p.due? verbose timeout now = some posting) : posting.notice.Evident p.name timeout := by
  obtain ⟨rfl, hchanged⟩ := told_of_due _ _ _ h
  obtain ⟨last, hlast⟩ : ∃ last, p.lastSeen = some last := by
    rw [← Option.ne_none_iff_exists']
    intro hnone
    exact hchanged (congrArg Peer.debouncer (checked_of_unseen hnone (hdown hnone)))
  have hnames : p.debouncer.wording ≠ (p.checked timeout now).debouncer.wording := by
    have hlimits : p.debouncer.limits = (p.checked timeout now).debouncer.limits := rfl
    rw [Ne, Debouncer.wording_eq_iff hlimits]
    exact hchanged.symm
  -- the state was observed from the very stamp that the notice shows
  have hrecent : (p.checked timeout now).debouncer.phase.latest =
      decide (now.elapsed last < timeout) := by
    rw [latest_checked, hlast]
    rfl
  have hnever : Notice.lastSeenText p.lastSeen ≠ "never" := by
    rw [hlast]
    exact last.pretty_ne_never
  refine ⟨rfl, rfl, flaw?_told _ _ _, hnames, last, now.elapsed last, hlast, hnever,
    Moment.elapsed?_of_aware hnow (hp last hlast), ?_, ?_⟩
  · simp only [told, Notice.ofTransition]
    rw [Debouncer.wording_eq_up_iff, Debouncer.maybeUp_prefix_wording_iff,
      ← Phase.latest_eq_true_iff,
      hrecent, decide_eq_true_eq]
  · simp only [told, Notice.ofTransition]
    rw [Debouncer.wording_eq_down_iff, Debouncer.maybeDown_prefix_wording_iff,
      ← Phase.latest_eq_false_iff, hrecent, decide_eq_false_iff_not, not_lt]

end Peer

/-! ## Every run -/

/-- A peer that starts down is down as long as no packet was routed to it. -/
theorem Board.Course.down_of_unseen {c : Course} {i : Nat} {p : Peer}
    (hp : p.debouncer.phase = .down) {steps : List Step} (h : c.lastSeen i steps = none) :
    (c.peerAfter steps i p).debouncer.phase = .down := by
  induction steps using List.reverseRecOn with
  | nil => exact hp
  | append_singleton steps step ih =>
    rw [lastSeen_snoc] at h
    split at h
    next => cases h
    next hfeeds =>
      have hdown := ih h
      -- neither the clock nor a packet for someone else moves the peer, and a check finds it down
      cases step with
      | clock now => rwa [peerAfter_snoc_clock]
      | packet address =>
        rwa [peerAfter_snoc_packet, if_neg (by simpa [feeds] using hfeeds)]
      | check =>
        rw [peerAfter_snoc_check]
        split
        · rwa [Peer.checked_of_unseen h hdown]
        · exact hdown

namespace Session

variable {c : Settings} {address : String} {verbose : Bool} {start : Moment}
  {steps : List Board.Step}

/-- **Every notice carries its evidence.** A monitor is built from any configuration of peers with
valid networks, and lives through any steps with a clock that shows zones. Then a peer that was
never seen is down, and all that a check hands over, to the journal and to the queue, is evident. -/
theorem passes_evident (hc : c.Buildable) (haddress : address ≠ "") (carrier : Carrier)
    (steady : Binary64) (hstart : start.Aware) (hsteps : ∀ step ∈ steps, step.Aware) :
    ∃ m, Monitor.build c address verbose (.ok carrier) = .ok m ∧
    let s := Session.mk m start steady
    (∀ p ∈ (s.after steps).monitor.board.roster.peers,
      p.lastSeen = none → p.debouncer.phase = .down) ∧
    ∀ u ∈ s.atChecks steps, u.Dispatches u.postings ∧
      ∀ posting ∈ u.postings, ∃ e ∈ c.peers, posting.notice.Evident e.name c.timeout := by
  obtain ⟨m, hbuild, hb⟩ := Monitor.exists_build hc haddress verbose carrier
  have haware : (m.board.course start).Aware steps := ⟨hstart, hsteps⟩
  -- fresh peers are down, and stay so until they are seen
  have hunseen : ∀ i p past, m.board.roster.peers[i]? = some p →
      ((m.board.course start).peerAfter past i p).lastSeen = none →
      ((m.board.course start).peerAfter past i p).debouncer.phase = .down := by
    intro i p past hp
    refine Board.Course.down_of_unseen ?_
    rw [(hb.fresh p (List.mem_of_getElem? hp)).debouncer]
    rfl
  refine ⟨m, hbuild, ?_, ?_⟩
  · rw [peers_after_of_build hb]
    intro q hq hlast
    obtain ⟨i, p, hp, rfl⟩ := Board.Course.exists_of_mem_peersAfter hq
    exact hunseen i p steps hp hlast
  · intro u hu
    obtain ⟨past, -, hfollows⟩ := follows_atChecks hb haware steady hu
    refine ⟨hfollows.dispatches, fun posting hposting => ?_⟩
    obtain ⟨i, q, hq, hdue⟩ := hfollows.exists_due hposting
    rw [hfollows.peer?_eq] at hq
    obtain ⟨p, hp, rfl⟩ := Option.map_eq_some_iff.mp hq
    obtain ⟨e, he, hpe⟩ := hb.exists_entry hp
    have hevident := Peer.evident_of_due (hunseen i p past hp) (hfollows.aware.lastSeen i)
      hfollows.aware.clock hdue
    rw [hb.course_timeout] at hevident
    exact ⟨e, List.mem_of_getElem? he, Roster.name_of_peerOf hpe ▸ hevident⟩

/-- A single packet is told of twice: it opens a count, and once it is old the count is dropped. -/
theorem passes_evident_reset :
    let c : Settings := ⟨2, 2, "1s", "5s", "", ⟨"slack", []⟩, [⟨"A", "10.0.0.0/24", 0, 0, ""⟩]⟩
    let start : Moment := ⟨0, some .utc⟩
    let steps : List Board.Step := [.packet "10.0.0.5", .check, .clock ⟨5000000, some .utc⟩, .check]
    ∃ m, Monitor.build c "0.0.0.0" true (.ok (.rehearsal [] 0)) = .ok m ∧
      let checks := (Session.mk m start (.finite false 0)).atChecks steps
      checks.map (fun u => u.postings.map fun posting => posting.notice.newState) =
        [["Maybe Up (1 of 2)"], ["Down"]] ∧
      ∀ u ∈ checks, u.Dispatches u.postings ∧
        ∀ posting ∈ u.postings, posting.notice.Evident "A" c.timeout := by
  intro c start steps
  let range : Net.Range := .around (.ofQuad 167772160) 24 (by decide)
  have hc : c.Buildable := .of_singleton range rfl (by decide)
  obtain ⟨m, hbuild, -, hevident⟩ := @passes_evident c "0.0.0.0" true start steps
    hc (by decide) (.rehearsal [] 0) (.finite false 0) rfl (by decide)
  refine ⟨m, hbuild, ?_, ?_⟩
  · obtain rfl := Monitor.eq_around_of_build hbuild
      [⟨"A", range, none, .start ⟨2, 2⟩, none, .free⟩] rfl
    decide +kernel
  · intro u hu
    refine ⟨(hevident u hu).1, fun posting hposting => ?_⟩
    obtain ⟨e, he, hn⟩ := (hevident u hu).2 posting hposting
    obtain rfl := List.mem_singleton.mp he
    exact hn

end Session
end EchoWatch
