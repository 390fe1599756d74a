import EchoWatch.Proofs.Watch.Record
/-!
# A verbose monitor only tells more

Two monitors are built from one configuration, a verbose one and a quiet one, and live through the
same steps. Verbosity decides what is told and nothing else, so their peers go the same way.

What the quiet monitor tells can be picked out of what the verbose one tells by the two states in a
notice (`Notice.Confirming`), although no notice says whether the step was notable.

* **`Peer.due?_quiet_eq_filter`**: so it is for one check of one peer.
* **`Session.passes_quiet_eq_filter`**: and for all checks of two runs.
-/

namespace EchoWatch

/-! ## Notices by their two states -/

namespace Notice

/-- A notice of a count that has become the verdict it counted for. -/
def Confirming (n : Notice) : Prop :=
  "Maybe Up".toList <+: n.prevState.toList ∧ n.newState = "Up" ∨
    "Maybe Down".toList <+: n.prevState.toList ∧ n.newState = "Down"

instance (n : Notice) : Decidable n.Confirming := by
  unfold Confirming; infer_instance

/-- A notice of a count that was dropped. -/
def Dropping (n : Notice) : Prop :=
  "Maybe Down".toList <+: n.prevState.toList ∧ n.newState = "Up" ∨
    "Maybe Up".toList <+: n.prevState.toList ∧ n.newState = "Down"

end Notice

/-! ## One check of one peer -/

namespace Peer

variable (timeout : Micros) (now : Moment) (p : Peer)

/-- The two states of a notice tell whether the step was notable. -/
theorem confirming_told_iff :
    (p.told timeout now).notice.Confirming ↔
      p.debouncer.notable (recent timeout now p.lastSeen) = true := by
  have hmove := p.debouncer.move (recent timeout now p.lastSeen)
  simp only [Notice.Confirming, told, Notice.ofTransition]
  rw [hmove.notable_iff_phases, Debouncer.maybeUp_prefix_wording_iff,
    Debouncer.maybeDown_prefix_wording_iff, Debouncer.wording_eq_up_iff,
    Debouncer.wording_eq_down_iff]
  rfl

/-- **A quiet check tells the confirming part of what a verbose one tells.** -/
theorem due?_quiet_eq_filter :
    p.due? false timeout now =
      (p.due? true timeout now).filter fun posting => posting.notice.Confirming := by
  rw [due?_quiet, due?_verbose]
  -- notable steps change the state, so that a verbose board tells them as well
  by_cases hnotable : p.debouncer.notable (recent timeout now p.lastSeen) = true
  · have hconfirming := (confirming_told_iff timeout now p).mpr hnotable
    rw [if_pos hnotable, if_pos (checked_ne_of_notable hnotable), Option.filter_some,
      if_pos (decide_eq_true hconfirming)]
  · have hconfirming := mt (confirming_told_iff timeout now p).mp hnotable
    rw [if_neg hnotable]
    split
    next => rw [Option.filter_some, decide_eq_false hconfirming]; rfl
    next => rfl

variable {timeout now p}

/-- What ends in a verdict without confirming it has dropped a count. -/
theorem dropping_of_due {verbose : Bool} {posting : Posting}
    (h : p.due? verbose timeout now = some posting)
    (hverdict : posting.notice.newState = "Up" ∨ posting.notice.newState = "Down")
    (hsilent : ¬ posting.notice.Confirming) : posting.notice.Dropping := by
  obtain ⟨rfl, hchanged⟩ := told_of_due _ _ _ h
  have hmove := p.debouncer.move (recent timeout now p.lastSeen)
  -- a step that is not confirming is not notable, so it has dropped a count
  have hnotable : p.debouncer.notable (recent timeout now p.lastSeen) = false := by
    rw [← Bool.not_eq_true]
    exact mt (confirming_told_iff timeout now p).mpr hsilent
  rw [hnotable] at hmove
  have hphase : (p.checked timeout now).debouncer.phase ≠ p.debouncer.phase := fun heq =>
    hchanged (congrArg (Debouncer.mk · p.debouncer.limits) heq)
  simp only [told, Notice.ofTransition, Debouncer.wording_eq_up_iff,
    Debouncer.wording_eq_down_iff] at hverdict
  simp only [Notice.Dropping, told, Notice.ofTransition]
  rw [Debouncer.maybeUp_prefix_wording_iff, Debouncer.maybeDown_prefix_wording_iff,
    Debouncer.wording_eq_up_iff, Debouncer.wording_eq_down_iff]
  exact hmove.drops_of_silent hphase hverdict

end Peer

/-! ## Two runs -/

/-- Two boards with the same peers owe the same, but for what a quiet one leaves out. Whether a
check gets past a peer has nothing to do with verbosity. -/
theorem Pass.owed_quiet_eq_filter (timeout : Micros) (now : Moment) (peers : List Peer) :
    Pass.owed false timeout now peers =
      (Pass.owed true timeout now peers).filter fun posting => posting.notice.Confirming := by
  unfold Pass.owed
  rw [List.filter_filterMap]
  congr 1
  funext p
  exact Peer.due?_quiet_eq_filter timeout now p

/-- Verbosity plays no part in what a monitor is built around. -/
theorem Monitor.BuiltFrom.course_eq {c : Settings} {verbose verbose' : Bool} {m m' : Monitor}
    (h : m.BuiltFrom c verbose) (h' : m'.BuiltFrom c verbose') (start : Moment) :
    m.board.course start = m'.board.course start := by
  have hpeers : m.board.roster.peers = m'.board.roster.peers := by
    have hread := Roster.peersOf_eq_ok_iff.mpr h.peers
    rw [Roster.peersOf_eq_ok_iff.mpr h'.peers] at hread
    exact (Except.ok.inj hread).symm
  have hroster : m.board.roster = m'.board.roster := congrArg Roster.mk hpeers
  unfold Board.course
  rw [hroster, h.timeout, h'.timeout]

namespace Session

variable {c : Settings} {address address' : String} {start : Moment} {steps : List Board.Step}

/-- The checks of a quiet monitor owe the confirming part of what those of a verbose one owe,
because both have come along the same course. -/
theorem postings_quiet {v q : Monitor} (hv : v.BuiltFrom c true) (hq : q.BuiltFrom c false)
    (haware : (v.board.course start).Aware steps) (steady steady' : Binary64) :
    ((Session.mk q start steady').atChecks steps).map postings =
      ((Session.mk v start steady).atChecks steps).map fun u =>
        u.postings.filter fun posting => posting.notice.Confirming := by
  have hcourse := hv.course_eq hq start
  refine map_atChecks_congr hv haware steady hq (hcourse ▸ haware) steady' ?_
  intro past _ verbose quiet hverbose hquiet
  rw [postings_eq_owed, postings_eq_owed, hquiet.board_eq, hquiet.now_eq, hverbose.board_eq,
    hverbose.now_eq, ← hcourse]
  exact Pass.owed_quiet_eq_filter _ _ _

/-- **A verbose monitor only tells more.** A verbose and a quiet monitor are built from one
configuration of peers with valid networks, and live through the same steps. Then their peers are
the same, and the checks of the quiet one hand over the confirming part of what the checks of the
verbose one hand over. Among the notices that it leaves out, those of a verdict tell of a count that
was dropped. -/
theorem passes_quiet_eq_filter (hc : c.Buildable) (haddress : address ≠ "")
    (haddress' : address' ≠ "") (carrier carrier' : Carrier) (steady steady' : Binary64)
    (hstart : start.Aware) (hsteps : ∀ step ∈ steps, step.Aware) :
    ∃ v q, Monitor.build c address true (.ok carrier) = .ok v ∧
      Monitor.build c address' false (.ok carrier') = .ok q ∧
    let verbose := Session.mk v start steady
    let quiet := Session.mk q start steady'
    (verbose.after steps).monitor.board.roster.peers =
      (quiet.after steps).monitor.board.roster.peers ∧
    (∀ u ∈ verbose.atChecks steps, u.Dispatches u.postings) ∧
    (∀ u ∈ quiet.atChecks steps, u.Dispatches u.postings) ∧
    (quiet.atChecks steps).map postings = (verbose.atChecks steps).map (fun u =>
      u.postings.filter fun posting => posting.notice.Confirming) ∧
    ∀ u ∈ verbose.atChecks steps, ∀ posting ∈ u.postings,
      posting.notice.newState = "Up" ∨ posting.notice.newState = "Down" →
      ¬ posting.notice.Confirming → posting.notice.Dropping := by
  obtain ⟨v, hbuild, hv⟩ := Monitor.exists_build hc haddress true carrier
  obtain ⟨q, hbuild', hq⟩ := Monitor.exists_build hc haddress' false carrier'
  have haware : (v.board.course start).Aware steps := ⟨hstart, hsteps⟩
  have hcourse := hv.course_eq hq start
  refine ⟨v, q, hbuild, hbuild', ?_, dispatches_atChecks hv haware steady,
    dispatches_atChecks hq (hcourse ▸ haware) steady',
    postings_quiet hv hq haware steady steady', ?_⟩
  · rw [peers_after_of_build hv, peers_after_of_build hq, hcourse]
  · intro u hu posting hposting
    obtain ⟨past, -, hfollows⟩ := follows_atChecks hv haware steady hu
    -- each posting is that of one peer, where the two phases are known
    obtain ⟨i, p, -, hdue⟩ := hfollows.exists_due hposting
    exact Peer.dropping_of_due hdue

/-- A peer that comes up and is then missed once: the quiet monitor tells only that it came up. -/
theorem passes_quiet_once :
    let c : Settings := ⟨2, 2, "1s", "5s", "", ⟨"slack", []⟩, [⟨"A", "10.0.0.0/24", 0, 0, ""⟩]⟩
    let start : Moment := ⟨0, some .utc⟩
    let steps : List Board.Step := [.packet "10.0.0.5", .check, .check, .clock ⟨5000000, some .utc⟩,
      .check, .packet "10.0.0.5", .check]
    let newStates := fun u : Session => u.postings.map fun posting => posting.notice.newState
    ∃ v q, Monitor.build c "0.0.0.0" true (.ok (.rehearsal [] 0)) = .ok v ∧
      Monitor.build c "0.0.0.0" false (.ok (.rehearsal [] 0)) = .ok q ∧
      let verbose := Session.mk v start (.finite false 0)
      let quiet := Session.mk q start (.finite false 0)
      (verbose.atChecks steps).map newStates =
        [["Maybe Up (1 of 2)"], ["Up"], ["Maybe Down (1 of 2)"], ["Up"]] ∧
      (quiet.atChecks steps).map newStates = [[], ["Up"], [], []] ∧
      (quiet.atChecks steps).map postings = (verbose.atChecks steps).map (fun u =>
        u.postings.filter fun posting => posting.notice.Confirming) := by
  intro c start steps newStates
  let range : Net.Range := .around (.ofQuad 167772160) 24 (by decide)
  have hc : c.Buildable := .of_singleton range rfl (by decide)
  obtain ⟨v, q, hbuild, hbuild', -, -, -, hquiet, -⟩ :=
    @passes_quiet_eq_filter c "0.0.0.0" "0.0.0.0" start steps hc (by decide) (by decide)
      (.rehearsal [] 0) (.rehearsal [] 0) (.finite false 0) (.finite false 0) rfl (by decide)
  let peers : List Peer := [⟨"A", range, none, .start ⟨2, 2⟩, none, .free⟩]
  obtain rfl := Monitor.eq_around_of_build hbuild peers rfl
  obtain rfl := Monitor.eq_around_of_build hbuild' peers rfl
  refine ⟨_, _, hbuild, hbuild', ?_, ?_, hquiet⟩
  · decide +kernel
  · decide +kernel

end Session
end EchoWatch
