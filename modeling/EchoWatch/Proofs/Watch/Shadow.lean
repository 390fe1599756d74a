import EchoWatch.Proofs.Watch.Counterpart
import EchoWatch.Proofs.Watch.Evidence
/-!
# Peers in the shadow of others

Ranges may overlap, and the first peer that holds an address gets its packets. So a peer may be
shadowed: the peers before it, one of them or several together, hold all of its addresses.

* **`Peer.due?_of_unseen`**, **`Peer.obstacle?_of_unseen`**: nothing is due for a peer that is down
  and was never seen, and it is no obstacle to a check.
* **`Pass.owed_eraseIdx`**, **`Pass.lt_length_cleared_eraseIdx`**: so a peer that stays unseen adds
  nothing to what a check hands over, and does not change how far it gets.
* **`Session.shadowed_inert`**: a monitor without the shadowed peer goes the same way. Places after
  the peer move up by one, and the other peers are counterparts along this move.
-/

namespace EchoWatch

/-! ## Unseen peers -/

/-- Nothing is told about a peer that was never seen. -/
theorem Peer.due?_of_unseen {p : Peer} (hlast : p.lastSeen = none)
    (hdown : p.debouncer.phase = .down) (verbose : Bool) (timeout : Micros) (now : Moment) :
    p.due? verbose timeout now = none := by
  rw [Option.eq_none_iff_forall_ne_some]
  intro posting hdue
  have hchanged := (told_of_due _ _ _ hdue).2
  exact hchanged (congrArg Peer.debouncer (checked_of_unseen hlast hdown))

/-- A peer that is down and was never seen stays that way, and its name shows no number. -/
theorem Peer.obstacle?_of_unseen {p : Peer} (hlast : p.lastSeen = none)
    (hdown : p.debouncer.phase = .down) (timeout : Micros) (now : Moment) :
    p.obstacle? timeout now = none := by
  have hlegible : p.debouncer.legible = true := by
    unfold Debouncer.legible Debouncer.progress
    rw [hdown]
    rfl
  refine obstacle?_eq_none_iff.mpr ⟨?_, hlegible, ?_⟩
  · rw [Comparable, hlast]
    intro last hmem
    cases hmem
  · rw [checked_of_unseen hlast hdown]
    exact hlegible

/-! ## Passes without a peer -/

namespace Pass

variable {timeout : Micros} {now : Moment} {peers : List Peer} {j : Nat}

/-- A peer for which nothing is due, and which is no obstacle, may be left out. -/
theorem owed_eraseIdx {verbose : Bool}
    (hobstacle : ∀ p, peers[j]? = some p → p.obstacle? timeout now = none)
    (hdue : ∀ p, peers[j]? = some p → p.due? verbose timeout now = none) :
    owed verbose timeout now (peers.eraseIdx j) = owed verbose timeout now peers := by
  induction peers generalizing j with
  | nil => rfl
  | cons p rest ih =>
    cases j with
    | zero =>
      rw [List.eraseIdx_cons_zero, owed_cons (hobstacle p rfl), hdue p rfl]
      rfl
    | succ j =>
      rw [List.eraseIdx_cons_succ]
      cases h : p.obstacle? timeout now with
      | some e => rw [owed_of_obstacle h, owed_of_obstacle h]
      | none => rw [owed_cons h, owed_cons h, ih hobstacle hdue]

/-- A pass gets past the same peers, whether or not one stands among them that is no obstacle. -/
theorem lt_length_cleared_eraseIdx
    (hobstacle : ∀ p, peers[j]? = some p → p.obstacle? timeout now = none) {k : Nat} :
    k < (cleared timeout now (peers.eraseIdx j)).length ↔
      Roster.former j k < (cleared timeout now peers).length := by
  have hlt : k < (peers.eraseIdx j).length ↔ Roster.former j k < peers.length := by
    rw [← not_iff_not, Nat.not_lt, Nat.not_lt, ← List.getElem?_eq_none_iff,
      ← List.getElem?_eq_none_iff, Roster.getElem?_eraseIdx_eq_former]
  rw [lt_length_cleared_iff, lt_length_cleared_iff, hlt]
  refine and_congr_right fun _ => ⟨fun hall i hi p hp => ?_, fun hall l hl p hp => ?_⟩
  · -- the peer that is left out, or one that has kept a place
    by_cases hij : i = j
    · exact hobstacle p (hij ▸ hp)
    · obtain ⟨l, rfl⟩ := Roster.exists_former hij
      refine hall l (Roster.former_le_former_iff.mp hi) p ?_
      rw [Roster.getElem?_eraseIdx_eq_former]
      exact hp
  · rw [Roster.getElem?_eraseIdx_eq_former] at hp
    exact hall _ (Roster.former_le_former_iff.mpr hl) p hp

end Pass

namespace Board.Course

variable {c d : Course} {j : Nat}

section Unrouted

variable (hroute : ∀ address, c.roster.route address ≠ .peer j)
include hroute

/-- A peer that gets no packets is never seen. -/
theorem lastSeen_eq_none_of_route (steps : List Step) : c.lastSeen j steps = none := by
  have hfeeds : ∀ step, c.feeds j step = false := by
    intro step
    cases step with
    | packet address => simp [feeds, hroute]
    | clock now | check => rfl
  simp [lastSeen, stamps, hfeeds]

/-- A peer to which nothing is routed is after any steps as it was in the beginning. -/
theorem unseen_of_route (hfresh : c.Fresh) {steps : List Step} {p : Peer}
    (hp : (c.peersAfter steps)[j]? = some p) :
    p.lastSeen = none ∧ p.debouncer.phase = .down := by
  rw [getElem?_peersAfter] at hp
  obtain ⟨q, hq, rfl⟩ := Option.map_eq_some_iff.mp hp
  have hlast := lastSeen_eq_none_of_route hroute steps
  refine ⟨hlast, down_of_unseen ?_ hlast⟩
  rw [(hfresh q (List.mem_of_getElem? hq)).debouncer]
  rfl

theorem silent_of_route (hfresh : c.Fresh) (verbose : Bool) {steps : List Step} {p : Peer}
    (hp : (c.peersAfter steps)[j]? = some p) :
    p.due? verbose c.timeout (c.clock steps) = none := by
  obtain ⟨hlast, hdown⟩ := unseen_of_route hroute hfresh hp
  exact Peer.due?_of_unseen hlast hdown _ _ _

theorem clear_of_route (hfresh : c.Fresh) {steps : List Step} {p : Peer}
    (hp : (c.peersAfter steps)[j]? = some p) :
    p.obstacle? c.timeout (c.clock steps) = none := by
  obtain ⟨hlast, hdown⟩ := unseen_of_route hroute hfresh hp
  exact Peer.obstacle?_of_unseen hlast hdown _ _

end Unrouted

/-! ### Without a peer

The second course is the first one without peer `j`, to which nothing is routed. How far the checks
get and what the peers are have to be followed together, since each hangs on the other. -/

section Without

variable (h : ∀ k, c.Counterpart d (Roster.former j k) k)
include h

theorem peersAfter_eraseIdx {steps : List Step}
    (hreach : ∀ past, past ++ [.check] <+: steps →
      ∀ k, k < d.reach past ↔ Roster.former j k < c.reach past) :
    d.peersAfter steps = (c.peersAfter steps).eraseIdx j := by
  apply List.ext_getElem?
  intro k
  rw [(h k).getElem?_peersAfter fun past hpast => hreach past hpast k,
    Roster.getElem?_eraseIdx_eq_former]

variable (hroute : ∀ address, c.roster.route address ≠ .peer j) (hfresh : c.Fresh)
  (hfresh' : d.Fresh)
include hroute hfresh hfresh'

/-- Checks of both courses get equally far. Induction on the steps: the peers that an earlier check
left decide how far the next one gets. -/
theorem reach_former (steps : List Step) (k : Nat) :
    k < d.reach steps ↔ Roster.former j k < c.reach steps := by
  induction hlen : steps.length using Nat.strong_induction_on generalizing steps k with
  | _ length ih =>
    have hpeers : d.peersAfter steps = (c.peersAfter steps).eraseIdx j := by
      refine peersAfter_eraseIdx h fun past hpast k => ih past.length ?_ past k rfl
      have hle := hpast.length_le
      rw [List.length_append, List.length_singleton] at hle
      omega
    rw [reach_eq hfresh, reach_eq hfresh', hpeers, (h 0).timeout, (h 0).clock_eq]
    exact Pass.lt_length_cleared_eraseIdx fun p hp => clear_of_route hroute hfresh hp

theorem owed_without (verbose : Bool) (steps : List Step) :
    Pass.owed verbose d.timeout (d.clock steps) (d.peersAfter steps) =
      Pass.owed verbose c.timeout (c.clock steps) (c.peersAfter steps) := by
  rw [peersAfter_eraseIdx h fun past _ => reach_former h hroute hfresh hfresh' past, (h 0).timeout,
    (h 0).clock_eq]
  exact Pass.owed_eraseIdx (fun p hp => clear_of_route hroute hfresh hp)
    (fun p hp => silent_of_route hroute hfresh verbose hp)

end Without

end Board.Course

/-! ## Configurations -/

namespace Settings

/-- Each address in the network of entry `j` is in the network of an entry before it. -/
def Shadowed (c : Settings) (j : Nat) : Prop :=
  ∀ a, c.Holds j a → ∃ i < j, c.Holds i a

/-- The configuration without entry `j`. -/
def without (c : Settings) (j : Nat) : Settings :=
  { c with peers := c.peers.eraseIdx j }

/-- Every entry holds some address. -/
theorem Buildable.exists_holds {c : Settings} (hc : c.Buildable) {i : Nat}
    (hi : i < c.peers.length) : ∃ a, c.Holds i a := by
  obtain ⟨range, hrange⟩ := hc.networks _ (List.getElem_mem hi)
  refine ⟨range.base, ?_⟩
  rw [holds_iff_contains (List.getElem?_eq_getElem hi) hrange]
  exact range.contains_base

/-- A peer is not the only one that shadows it. -/
theorem Shadowed.buildable_without {c : Settings} {j : Nat} (h : c.Shadowed j)
    (hc : c.Buildable) (hj : j < c.peers.length) : (c.without j).Buildable := by
  obtain ⟨a, ha⟩ := hc.exists_holds hj
  obtain ⟨i, hi, -⟩ := h a ha
  refine hc.of_subset ?_ (List.eraseIdx_sublist _ _).subset
  intro hnil
  have hlen : (c.peers.eraseIdx j).length = c.peers.length - 1 := List.length_eraseIdx_of_lt hj
  rw [hnil, List.length_nil] at hlen
  omega

end Settings

/-- A shadowed entry makes a shadowed peer. -/
theorem Monitor.BuiltFrom.shadowed {c : Settings} {verbose : Bool} {m : Monitor}
    (hm : m.BuiltFrom c verbose) {j : Nat} (h : c.Shadowed j) : m.board.roster.Shadowed j := by
  intro a ha
  obtain ⟨i, hi, hin⟩ := h a ((hm.holds_iff j a).mpr ha)
  exact ⟨i, hi, (hm.holds_iff i a).mp hin⟩

/-- Where a shadowed entry is left out, every other peer has a counterpart. -/
theorem Monitor.BuiltFrom.counterpart_without {c : Settings} {verbose verbose' : Bool}
    {m n : Monitor} (hm : m.BuiltFrom c verbose) {j : Nat} (h : c.Shadowed j)
    (hn : n.BuiltFrom (c.without j) verbose') (start : Moment) (k : Nat) :
    (m.board.course start).Counterpart (n.board.course start) (Roster.former j k) k := by
  have hpeers : n.board.roster.peers = m.board.roster.peers.eraseIdx j := by
    apply List.ext_getElem?
    intro l
    rw [Roster.getElem?_eraseIdx_eq_former]
    exact hm.getElem?_congr hn (Roster.getElem?_eraseIdx_eq_former _ _ _)
  exact hm.counterpart hn (Roster.getElem?_eraseIdx_eq_former _ _ _)
    ((hm.shadowed h).isLeast_former hpeers) start

/-! ## Two runs -/

namespace Session

variable {c : Settings} {address address' : String} {verbose : Bool} {start : Moment}
  {steps : List Board.Step} {j : Nat}

/-- **A shadowed peer is inert.** The peers before it hold all addresses of peer `j`. A monitor is
built from the configuration and another one from the configuration without that peer, and they live
through the same steps, with a clock that shows zones. Then no text is routed to peer `j`; it is
never seen, stays down, and no check tells of it. The other peers are the same in both runs, at each
check the same is owed for them, and both monitors hand over the same. -/
theorem shadowed_inert (hc : c.Buildable) (hj : j < c.peers.length) (hshadowed : c.Shadowed j)
    (haddress : address ≠ "") (haddress' : address' ≠ "") (carrier carrier' : Carrier)
    (steady steady' : Binary64) (hstart : start.Aware) (hsteps : ∀ step ∈ steps, step.Aware) :
    ∃ m n, Monitor.build c address verbose (.ok carrier) = .ok m ∧
      Monitor.build (c.without j) address' verbose (.ok carrier') = .ok n ∧
    let s := Session.mk m start steady
    let t := Session.mk n start steady'
    (∀ text, (s.after steps).monitor.board.roster.route text ≠ .peer j) ∧
    (∃ p, (s.after steps).peer? j = some p ∧ p.lastSeen = none ∧ p.debouncer.phase = .down) ∧
    (∀ u ∈ s.atChecks steps, u.posting? j = none) ∧
    (t.after steps).monitor.board.roster.peers =
      (s.after steps).monitor.board.roster.peers.eraseIdx j ∧
    (∀ k, (t.atChecks steps).map (fun v => v.posting? k) =
      (s.atChecks steps).map fun u => u.posting? (Roster.former j k)) ∧
    (∀ u ∈ s.atChecks steps, u.Dispatches u.postings) ∧
    (∀ v ∈ t.atChecks steps, v.Dispatches v.postings) ∧
    (t.atChecks steps).map postings = (s.atChecks steps).map postings := by
  obtain ⟨m, hbuild, hm⟩ := Monitor.exists_build hc haddress verbose carrier
  obtain ⟨n, hbuild', hn⟩ := Monitor.exists_build (hshadowed.buildable_without hc hj) haddress'
    verbose carrier'
  refine ⟨m, n, hbuild, hbuild', ?_⟩
  intro s t
  have haware : (m.board.course start).Aware steps := ⟨hstart, hsteps⟩
  have haware' : (n.board.course start).Aware steps := ⟨hstart, hsteps⟩
  have hcounter := hm.counterpart_without hshadowed hn start
  have hroute : ∀ text, (m.board.course start).roster.route text ≠ .peer j :=
    (hm.shadowed hshadowed).route_ne
  have hpeers : (s.after steps).monitor.board.roster.peers = _ :=
    peers_after_of_build hm start steady steps
  have hpeers' : (t.after steps).monitor.board.roster.peers = _ :=
    peers_after_of_build hn start steady' steps
  have hfresh : (m.board.course start).Fresh := Board.fresh_course hm start
  have hfresh' : (n.board.course start).Fresh := Board.fresh_course hn start
  have hreach := Board.Course.reach_former hcounter hroute hfresh hfresh'
  refine ⟨?_, ?_, ?_, ?_, ?_, dispatches_atChecks hm haware steady,
    dispatches_atChecks hn haware' steady', ?_⟩
  · intro text
    rw [route_after_of_build hm]
    exact hroute text
  · obtain ⟨p, -, hp⟩ := hm.exists_peer (List.getElem?_eq_getElem hj)
    have hafter : ((m.board.course start).peersAfter steps)[j]? =
        some ((m.board.course start).peerAfter steps j p) := by
      rw [Board.Course.getElem?_peersAfter]
      exact congrArg (Option.map _) hp
    refine ⟨_, ?_, Board.Course.unseen_of_route hroute hfresh hafter⟩
    rw [peer?, hpeers]
    exact hafter
  · intro u hu
    obtain ⟨past, -, hfollows⟩ := follows_atChecks hm haware steady hu
    rw [hfollows.posting?_eq, peer?, hfollows.peers_eq]
    split
    · rw [Option.bind_eq_none_iff]
      exact fun p hp => Board.Course.silent_of_route hroute hfresh verbose hp
    · rfl
  · rw [hpeers, hpeers', Board.Course.peersAfter_eraseIdx hcounter fun past _ => hreach past]
  · intro k
    exact map_posting?_counterpart hm hn haware haware' steady steady' (hcounter k)
      fun past _ => hreach past k
  · apply map_atChecks_congr hm haware steady hn haware' steady'
    intro past _ u v hu hv
    -- the one peer that the second list lacks is the one for which nothing is due
    have howed := Board.Course.owed_without hcounter hroute hfresh hfresh' verbose past
    rw [postings_eq_owed, postings_eq_owed, hu.board_eq, hu.now_eq, hv.board_eq, hv.now_eq]
    exact howed

/-- Two halves shadow the whole. Its packet counts for the upper half, with or without the whole. -/
theorem shadowed_inert_halves :
    let c : Settings := ⟨2, 2, "1s", "10s", "", ⟨"slack", []⟩,
      [⟨"lower", "10.0.0.0/25", 0, 0, ""⟩, ⟨"upper", "10.0.0.128/25", 0, 0, ""⟩,
        ⟨"whole", "10.0.0.0/24", 0, 0, ""⟩]⟩
    let start : Moment := ⟨0, some .utc⟩
    let steps : List Board.Step := [.packet "10.0.0.200", .check, .check]
    c.Shadowed 2 ∧
    ∃ m n, Monitor.build c "0.0.0.0" true (.ok (.rehearsal [] 0)) = .ok m ∧
      Monitor.build (c.without 2) "0.0.0.0" true (.ok (.rehearsal [] 0)) = .ok n ∧
    let s := Session.mk m start (.finite false 0)
    let t := Session.mk n start (.finite false 0)
    (∀ text, (s.after steps).monitor.board.roster.route text ≠ .peer 2) ∧
    (t.after steps).monitor.board.roster.peers =
      (s.after steps).monitor.board.roster.peers.eraseIdx 2 ∧
    (t.atChecks steps).map postings = (s.atChecks steps).map postings ∧
    (t.atChecks steps).map (fun v => v.postings.map fun posting => posting.notice.title) =
      [["Peer upper is Maybe Up (1 of 2)"], ["Peer upper is Up"]] := by
  intro c start steps
  let lower : Net.Range := .around (.ofQuad 167772160) 25 (by decide)
  let upper : Net.Range := .around (.ofQuad 167772288) 25 (by decide)
  let whole : Net.Range := .around (.ofQuad 167772160) 24 (by decide)
  have hlower : Net.Range.parse "10.0.0.0/25" = .ok lower := by decide
  have hupper : Net.Range.parse "10.0.0.128/25" = .ok upper := by decide
  have hwhole : Net.Range.parse "10.0.0.0/24" = .ok whole := by decide
  have hc : c.Buildable :=
    .of_ranges (List.cons_ne_nil _ _) (.cons hlower (.cons hupper (.cons hwhole .nil)))
  have hshadowed : c.Shadowed 2 := by
    intro a ha
    rw [Settings.holds_iff_contains rfl hwhole, Net.Range.contains_iff] at ha
    obtain ⟨hfamily, hlo, hhi⟩ := ha
    have hbase : whole.base.value = 167772160 := by decide
    have hsize : 2 ^ Net.Range.freeBits whole.base whole.length = 256 := by decide
    -- an address of the whole is one of either half
    by_cases hmiddle : a.value < 167772288
    · refine ⟨0, by decide, (Settings.holds_iff_contains rfl hlower a).mpr ?_⟩
      have hbase' : lower.base.value = 167772160 := by decide
      have hsize' : 2 ^ Net.Range.freeBits lower.base lower.length = 128 := by decide
      rw [Net.Range.contains_iff]
      exact ⟨hfamily, by omega, by omega⟩
    · refine ⟨1, by decide, (Settings.holds_iff_contains rfl hupper a).mpr ?_⟩
      have hbase' : upper.base.value = 167772288 := by decide
      have hsize' : 2 ^ Net.Range.freeBits upper.base upper.length = 128 := by decide
      rw [Net.Range.contains_iff]
      exact ⟨hfamily, by omega, by omega⟩
  obtain ⟨m, n, hbuild, hbuild', hroute, -, -, hpeers, -, -, -, hpostings⟩ :=
    @shadowed_inert c "0.0.0.0" "0.0.0.0" true start steps 2 hc (by decide) hshadowed (by decide)
      (by decide) (.rehearsal [] 0) (.rehearsal [] 0) (.finite false 0) (.finite false 0) rfl
      (by decide)
  refine ⟨hshadowed, m, n, hbuild, hbuild', hroute, hpeers, hpostings, ?_⟩
  obtain rfl := Monitor.eq_around_of_build hbuild'
    [⟨"lower", lower, none, .start ⟨2, 2⟩, none, .free⟩,
      ⟨"upper", upper, none, .start ⟨2, 2⟩, none, .free⟩] rfl
  decide +kernel

end Session
end EchoWatch
