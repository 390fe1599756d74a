import EchoWatch.Proofs.Debouncer.Order
import EchoWatch.Proofs.Watch.Session
/-!
# A milder configuration keeps peers more alive

Two monitors watch the same peers. The second one waits longer for a packet, wants no more sightings
for up and no fewer misses for down. Their runs soon part: the second monitor sees a peer where the
first one misses it, and their counts are of different things.

* **`Course.Milder.observations_le`**: packets go the same way in both runs, so a check of the
  second run sees whatever the same check of the first run sees.
* **`Session.after_mono`**: after any steps, no peer is less alive at the second monitor, if every
  threshold can be written.

What becomes of a peer is told by its own observations alone. So runs are compared by comparing
debouncers, and no state of one board has to be matched with a state of the other.
-/

namespace EchoWatch

/-! ## Peers -/

/-- A longer timeout sees all that a shorter one sees. -/
theorem Peer.recent_mono {timeout timeout' : Micros} (h : timeout ≤ timeout') (now : Moment)
    (last : Option Moment) : recent timeout now last ≤ recent timeout' now last := by
  cases last with
  | none => exact le_refl _
  | some last =>
    rw [Bool.le_iff_imp]
    simp only [recent, decide_eq_true_eq]
    intro hrecent
    exact lt_of_lt_of_le hrecent h

/-- The second peer is the first one with milder thresholds, and it is no less alive. -/
structure Peer.Milder (p p' : Peer) : Prop where
  name : p.name = p'.name
  range : p.range = p'.range
  up : p'.debouncer.limits.up ≤ p.debouncer.limits.up
  down : p.debouncer.limits.down ≤ p'.debouncer.limits.down
  counted : p.debouncer.phase.Counted
  counted' : p'.debouncer.phase.Counted
  phase : p.debouncer.phase ≤ p'.debouncer.phase

/-- Milder peers have the same ranges, and so packets go the same ways. -/
theorem Roster.route_of_milder {r r' : Roster} (h : List.Forall₂ Peer.Milder r.peers r'.peers)
    (address : String) : r.route address = r'.route address := by
  apply route_congr
  rw [← List.forall₂_eq_eq_eq, List.forall₂_map_left_iff, List.forall₂_map_right_iff]
  exact h.imp fun p p' hp => hp.range

/-! ## Courses -/

namespace Board.Course

/-- The second course begins like the first one, with milder peers and a longer timeout. -/
structure Milder (c c' : Course) : Prop where
  peers : List.Forall₂ Peer.Milder c.roster.peers c'.roster.peers
  timeout : c.timeout ≤ c'.timeout
  opening : c.opening = c'.opening

namespace Milder

variable {c c' : Course} (h : c.Milder c')
include h

theorem clock_eq (steps : List Step) : c.clock steps = c'.clock steps :=
  clock_congr h.opening steps

theorem feeds_eq (i : Nat) (step : Step) : c.feeds i step = c'.feeds i step := by
  cases step with
  | packet address => simp only [feeds, Roster.route_of_milder h.peers address]
  | clock now | check => rfl

theorem lastSeen_eq (i : Nat) (steps : List Step) : c.lastSeen i steps = c'.lastSeen i steps :=
  lastSeen_congr h.opening (h.feeds_eq i) steps

/-- What the first run sees, the second run sees. -/
theorem observation_le (i : Nat) (past : List Step) :
    c.observation i past ≤ c'.observation i past := by
  unfold observation
  rw [h.clock_eq, h.lastSeen_eq]
  exact Peer.recent_mono h.timeout _ _

/-- Runs whose checks get equally far: whatever the first one sees, the second one sees. -/
theorem observations_le (i : Nat) {steps : List Step}
    (hreach : ∀ past, past <+: steps → c.reach past = c'.reach past) :
    List.Forall₂ (· ≤ ·) (c.observations i steps) (c'.observations i steps) := by
  refine observations_rel (h.observation_le i) fun past hpast => ?_
  rw [hreach past ((List.prefix_append past _).trans hpast)]

/-- After any steps whose checks get equally far, every peer of the second course is no less
alive. -/
theorem peersAfter_phase_le {steps : List Step}
    (hreach : ∀ past, past <+: steps → c.reach past = c'.reach past) :
    List.Forall₂ (fun p p' => p.name = p'.name ∧ p.debouncer.phase ≤ p'.debouncer.phase)
      (c.peersAfter steps) (c'.peersAfter steps) := by
  unfold peersAfter
  rw [List.forall₂_iff_get]
  refine ⟨by simpa using h.peers.length_eq, ?_⟩
  intro i hi hi'
  simp only [List.get_eq_getElem, List.getElem_mapIdx]
  rw [List.length_mapIdx] at hi hi'
  have hp := h.peers.get hi hi'
  exact ⟨hp.name, Debouncer.observeAll_mono (h.observations_le i hreach) hp.up hp.down hp.counted
    hp.counted' hp.phase⟩

end Milder
end Board.Course

/-! ## Configurations -/

/-- Two entries for one peer, by name and network. Each one's thresholds are taken together with its
configuration, and the second one's are no higher for up and no lower for down. -/
structure PeerSettings.Milder (c c' : Settings) (e e' : PeerSettings) : Prop where
  name : e.name = e'.name
  network : e.network = e'.network
  up : Roster.threshold e'.upThreshold c'.upThreshold ≤ Roster.threshold e.upThreshold c.upThreshold
  down : Roster.threshold e.downThreshold c.downThreshold ≤
    Roster.threshold e'.downThreshold c'.downThreshold

/-- The second configuration has the same peers in the same order and is milder on each of them. -/
structure Settings.Milder (c c' : Settings) : Prop where
  peers : List.Forall₂ (PeerSettings.Milder c c') c.peers c'.peers
  timeout : c.timeout ≤ c'.timeout

/-- A milder entry makes a milder peer. -/
theorem PeerSettings.Milder.peerOf {c c' : Settings} {e e' : PeerSettings} (h : Milder c c' e e')
    {p p' : Peer} (hp : Roster.peerOf c e = .ok p) (hp' : Roster.peerOf c' e' = .ok p') :
    p.Milder p' := by
  obtain ⟨range, hrange, rfl⟩ := Roster.peerOf_eq_ok_iff.mp hp
  obtain ⟨range', hrange', rfl⟩ := Roster.peerOf_eq_ok_iff.mp hp'
  rw [h.network, hrange'] at hrange
  -- both start down
  exact ⟨h.name, (Except.ok.inj hrange).symm, h.up, h.down, trivial, trivial, le_refl _⟩

/-- Milder entries make milder peers, place by place. -/
theorem PeerSettings.Milder.peersOf {c c' : Settings} {entries entries' : List PeerSettings}
    (h : List.Forall₂ (Milder c c') entries entries') {peers peers' : List Peer}
    (hpeers : List.Forall₂ (fun e p => Roster.peerOf c e = .ok p) entries peers)
    (hpeers' : List.Forall₂ (fun e p => Roster.peerOf c' e = .ok p) entries' peers') :
    List.Forall₂ Peer.Milder peers peers' := by
  induction h generalizing peers peers' with
  | nil =>
    cases hpeers
    cases hpeers'
    exact .nil
  | cons he _ ih =>
    obtain ⟨p, rest, hp, hrest, rfl⟩ := List.forall₂_cons_left_iff.mp hpeers
    obtain ⟨p', rest', hp', hrest', rfl⟩ := List.forall₂_cons_left_iff.mp hpeers'
    exact .cons (he.peerOf hp hp') (ih hrest hrest')

namespace Settings.Milder

variable {c c' : Settings} (h : c.Milder c')
include h

/-- A milder configuration has the same networks. -/
theorem buildable (hc : c.Buildable) : c'.Buildable := by
  have hlen := h.peers.length_eq
  refine ⟨?_, ?_⟩
  · intro hnil
    rw [hnil, List.length_nil] at hlen
    exact hc.peers (List.eq_nil_of_length_eq_zero hlen)
  · intro e' he'
    obtain ⟨i, hi', rfl⟩ := List.getElem_of_mem he'
    have hi : i < c.peers.length := by omega
    obtain ⟨range, hrange⟩ := hc.networks _ (List.getElem_mem hi)
    exact ⟨range, (h.peers.get hi hi').network ▸ hrange⟩

theorem course {verbose verbose' : Bool} {m m' : Monitor} (hm : m.BuiltFrom c verbose)
    (hm' : m'.BuiltFrom c' verbose') (start : Moment) :
    (m.board.course start).Milder (m'.board.course start) := by
  refine ⟨PeerSettings.Milder.peersOf h.peers hm.peers hm'.peers, ?_, rfl⟩
  calc m.board.timeout = c.timeout := hm.timeout
    _ ≤ c'.timeout := h.timeout
    _ = m'.board.timeout := hm'.timeout.symm

end Settings.Milder

/-! ## Two runs -/

namespace Session

variable {c c' : Settings} {address address' : String} {verbose verbose' : Bool} {start : Moment}
  {steps : List Board.Step}

/-- **Liveness is monotone in the configuration.** Two monitors are built for the same peers, the
second one from the milder configuration, and live through the same steps. Where the thresholds of
both can be written, no peer is less alive at the second monitor afterwards.

A threshold that cannot be written ends every check at its peer, once that peer is being counted.
The peers behind it then stay as they are, and so may stay up at the first monitor alone. -/
theorem after_mono (hc : c.Buildable) (hwritable : c.Writable) (hwritable' : c'.Writable)
    (hmild : c.Milder c') (haddress : address ≠ "") (haddress' : address' ≠ "")
    (carrier carrier' : Carrier) (steady steady' : Binary64)
    (hstart : start.Aware) (hsteps : ∀ step ∈ steps, step.Aware) :
    ∃ m m', Monitor.build c address verbose (.ok carrier) = .ok m ∧
      Monitor.build c' address' verbose' (.ok carrier') = .ok m' ∧
      List.Forall₂ (fun p p' => p.name = p'.name ∧ p.debouncer.phase ≤ p'.debouncer.phase)
        ((Session.mk m start steady).after steps).monitor.board.roster.peers
        ((Session.mk m' start steady').after steps).monitor.board.roster.peers := by
  have hc' := hmild.buildable hc
  obtain ⟨m, hbuild, hm⟩ := Monitor.exists_build hc haddress verbose carrier
  obtain ⟨m', hbuild', hm'⟩ := Monitor.exists_build hc' haddress' verbose' carrier'
  refine ⟨m, m', hbuild, hbuild', ?_⟩
  rw [peers_after_of_build hm, peers_after_of_build hm']
  refine (hmild.course hm hm' start).peersAfter_phase_le fun past hpast => ?_
  -- all checks of both runs get to the end of the roster
  have haware : (m.board.course start).Aware past :=
    Board.Course.Aware.of_past ⟨hstart, hsteps⟩ hpast
  have haware' : (m'.board.course start).Aware past :=
    Board.Course.Aware.of_past ⟨hstart, hsteps⟩ hpast
  rw [reach_of_writable hm hwritable haware, reach_of_writable hm' hwritable' haware',
    hmild.peers.length_eq]

/-- A packet that is seven seconds old keeps a peer up where ten seconds are granted; where it is
five, and three sightings are wanted, the peer is down. -/
theorem after_late_packet :
    let c : Settings := ⟨3, 2, "1s", "5s", "", ⟨"slack", []⟩, [⟨"A", "10.0.0.0/24", 0, 0, ""⟩]⟩
    let c' : Settings := ⟨2, 3, "1s", "10s", "", ⟨"slack", []⟩, [⟨"A", "10.0.0.0/24", 0, 0, ""⟩]⟩
    let start : Moment := ⟨0, some .utc⟩
    let steps : List Board.Step :=
      [.packet "10.0.0.5", .check, .check, .clock ⟨7000000, some .utc⟩, .check]
    let peers := fun m =>
      ((Session.mk m start (.finite false 0)).after steps).monitor.board.roster.peers
    c.Milder c' ∧ ∃ m m', Monitor.build c "0.0.0.0" false (.ok (.rehearsal [] 0)) = .ok m ∧
      Monitor.build c' "0.0.0.0" false (.ok (.rehearsal [] 0)) = .ok m' ∧
      List.Forall₂ (fun p p' => p.name = p'.name ∧ p.debouncer.phase ≤ p'.debouncer.phase)
        (peers m) (peers m') ∧
      (peers m).map (fun p => p.debouncer.phase) = [.down] ∧
      (peers m').map (fun p => p.debouncer.phase) = [.up] := by
  intro c c' start steps peers
  let range : Net.Range := .around (.ofQuad 167772160) 24 (by decide)
  have hrange : Net.Range.parse "10.0.0.0/24" = .ok range := by decide
  have hc : c.Buildable := .of_singleton range rfl hrange
  have hmild : c.Milder c' :=
    ⟨.cons ⟨rfl, rfl, by decide, by decide⟩ .nil, by decide +kernel⟩
  obtain ⟨m, m', hm, hm', hle⟩ := @after_mono c c' "0.0.0.0" "0.0.0.0" false false start steps hc
    (by decide +kernel) (by decide +kernel) hmild (by decide) (by decide) (.rehearsal [] 0)
    (.rehearsal [] 0) (.finite false 0)
    (.finite false 0) rfl (by decide)
  -- the monitors are the ones around this peer
  let board : Thresholds → Micros → Board := fun limits timeout =>
    ⟨⟨[⟨"A", range, none, .start limits, none, .free⟩]⟩, timeout, false⟩
  have haround : Monitor.build c "0.0.0.0" false (.ok (.rehearsal [] 0)) =
      .ok (.around c "0.0.0.0" (board ⟨3, 2⟩ c.timeout) (.rehearsal [] 0)) := rfl
  have haround' : Monitor.build c' "0.0.0.0" false (.ok (.rehearsal [] 0)) =
      .ok (.around c' "0.0.0.0" (board ⟨2, 3⟩ c'.timeout) (.rehearsal [] 0)) := rfl
  obtain rfl := Except.ok.inj (haround.symm.trans hm)
  obtain rfl := Except.ok.inj (haround'.symm.trans hm')
  refine ⟨hmild, _, _, hm, hm', hle, ?_, ?_⟩
  · decide +kernel
  · decide +kernel

/-- No check gets past a peer whose threshold for up is too long to be written, once it was seen.
The peer behind it is silent and stays up, although at the milder monitor it is on its way down. -/
theorem alive_behind_long_threshold :
    let c (up : Int) : Settings := ⟨up, 2, "1s", "5s", "", ⟨"slack", []⟩,
      [⟨"A", "10.0.0.0/24", 0, 0, ""⟩, ⟨"B", "10.0.1.0/24", 2, 0, ""⟩]⟩
    let start : Moment := ⟨0, some .utc⟩
    let steps : List Board.Step := [.packet "10.0.1.5", .check, .check,
      .clock ⟨5000000, some .utc⟩, .packet "10.0.0.5", .check]
    let phases := fun m =>
      ((Session.mk m start (.finite false 0)).after steps).monitor.board.roster.peers.map fun p =>
        p.debouncer.phase
    (c (Nat.pow 16 3600)).Milder (c 2) ∧
      ∃ m m', Monitor.build (c (Nat.pow 16 3600)) "0.0.0.0" false (.ok (.rehearsal [] 0)) = .ok m ∧
        Monitor.build (c 2) "0.0.0.0" false (.ok (.rehearsal [] 0)) = .ok m' ∧
        phases m = [.down, .up] ∧ phases m' = [.maybeUp 1, .maybeDown 1] ∧
        ¬ Phase.up ≤ .maybeDown 1 := by
  intro c start steps phases
  -- the second configuration is the milder one, its threshold for up being smaller
  have hmild : (c (Nat.pow 16 3600)).Milder (c 2) :=
    ⟨.cons ⟨rfl, rfl, by decide +kernel, by decide⟩ (.cons ⟨rfl, rfl, by decide, by decide⟩ .nil),
      by decide +kernel⟩
  let first : Net.Range := .around (.ofQuad 167772160) 24 (by decide)
  let second : Net.Range := .around (.ofQuad 167772416) 24 (by decide)
  have hfirst : Net.Range.parse "10.0.0.0/24" = .ok first := by decide
  have hsecond : Net.Range.parse "10.0.1.0/24" = .ok second := by decide
  have hbuildable (up : Int) : (c up).Buildable :=
    .of_ranges (List.cons_ne_nil _ _) (.cons hfirst (.cons hsecond .nil))
  obtain ⟨m, hbuild, -⟩ := @Monitor.exists_build _ (hbuildable (Nat.pow 16 3600)) "0.0.0.0"
    (by decide) false (.rehearsal [] 0)
  obtain ⟨m', hbuild', -⟩ := @Monitor.exists_build _ (hbuildable 2) "0.0.0.0" (by decide) false
    (.rehearsal [] 0)
  refine ⟨hmild, m, m', hbuild, hbuild', ?_, ?_, ?_⟩
  · obtain rfl := Monitor.eq_around_of_build hbuild
      [⟨"A", first, none, .start ⟨Nat.pow 16 3600, 2⟩, none, .free⟩,
        ⟨"B", second, none, .start ⟨2, 2⟩, none, .free⟩] rfl
    decide +kernel
  · obtain rfl := Monitor.eq_around_of_build hbuild'
      [⟨"A", first, none, .start ⟨2, 2⟩, none, .free⟩,
        ⟨"B", second, none, .start ⟨2, 2⟩, none, .free⟩] rfl
    decide +kernel
  · simp [Phase.le_iff_rank, Phase.rank]

end Session
end EchoWatch
