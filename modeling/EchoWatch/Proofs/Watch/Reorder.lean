import EchoWatch.Proofs.Watch.Counterpart
import Mathlib.Data.List.FinRange
/-!
# Peers in another order

The order of the peers decides who gets the packets of an address that several of them hold. Where
the networks of a configuration are apart, it decides nothing but the order in which a check hands
over what it makes of the peers.

* **`BuiltFrom.counterpart_reordered`**: each peer has its counterpart in the other order.
* **`Session.postings_reordered`**: what the checks of a monitor owe, from the postings of the
  counterparts.
* **`Session.reordered_alike`**: two runs in different orders.

A check that comes upon an obstacle does not get to the peers behind it, and which peers these are
is a matter of order again. So the thresholds must be such that every state has a name.
-/

namespace EchoWatch

/-! ## Configurations -/

namespace Settings

/-- No address is in two networks. -/
def Apart (c : Settings) : Prop :=
  ∀ a i k, c.Holds i a → c.Holds k a → i = k

/-- The configuration with its entries in another order. Entry `σ k` comes to stand at place `k`. -/
def reordered (c : Settings) (σ : Equiv.Perm (Fin c.peers.length)) : Settings :=
  { c with peers := List.ofFn fun k => c.peers[σ k] }

variable {c : Settings} {σ : Equiv.Perm (Fin c.peers.length)}

/-- The entry at a place. -/
theorem getElem?_reordered (k : Fin c.peers.length) :
    (c.reordered σ).peers[(k : Nat)]? = c.peers[(σ k : Nat)]? := by
  rw [reordered, List.getElem?_ofFn, dif_pos k.isLt, List.getElem?_eq_getElem (σ k).isLt]
  rfl

/-- The order of entries does not matter for building. -/
theorem Buildable.reordered (hc : c.Buildable) : (c.reordered σ).Buildable := by
  refine hc.of_subset ?_ ?_
  · have hlen : (List.ofFn fun k => c.peers[σ k]).length = c.peers.length := List.length_ofFn
    rw [← List.length_pos_iff, hlen, List.length_pos_iff]
    exact hc.peers
  · intro e he
    obtain ⟨k, rfl⟩ := List.mem_ofFn.mp he
    exact List.getElem_mem _

theorem Writable.reordered (hc : c.Writable) : (c.reordered σ).Writable := by
  intro e he
  obtain ⟨k, rfl⟩ := List.mem_ofFn.mp he
  exact hc _ (List.getElem_mem _)

theorem length_reordered : (c.reordered σ).peers.length = c.peers.length :=
  List.length_ofFn

/-- Two networks are apart if the first one ends before the second one begins. -/
theorem apart_of_pair {e e' : PeerSettings} {lower upper : Net.Range} (hpeers : c.peers = [e, e'])
    (hlower : Net.Range.parse e.network = .ok lower)
    (hupper : Net.Range.parse e'.network = .ok upper)
    (hend : lower.base.value + 2 ^ Net.Range.freeBits lower.base lower.length ≤ upper.base.value) :
    c.Apart := by
  -- which of the two an address is in can be seen from its number
  have hplace : ∀ a i, c.Holds i a →
      i = 0 ∧ a.value < upper.base.value ∨ i = 1 ∧ upper.base.value ≤ a.value := by
    rintro a (_ | _ | i) hin
    · rw [holds_iff_contains (by rw [hpeers]; rfl) hlower, Net.Range.contains_iff] at hin
      exact Or.inl ⟨rfl, hin.2.2.trans_le hend⟩
    · rw [holds_iff_contains (by rw [hpeers]; rfl) hupper, Net.Range.contains_iff] at hin
      exact Or.inr ⟨rfl, hin.2.1⟩
    · obtain ⟨entry, -, -, hentry, -⟩ := hin
      rw [hpeers] at hentry
      cases hentry
  intro a i k hi hk
  have hi' := hplace a i hi
  have hk' := hplace a k hk
  omega

end Settings

namespace Monitor.BuiltFrom

variable {c : Settings} {σ : Equiv.Perm (Fin c.peers.length)} {verbose verbose' : Bool}
  {m n : Monitor} (hm : m.BuiltFrom c verbose) (hn : n.BuiltFrom (c.reordered σ) verbose')
include hm

theorem apart (h : c.Apart) : m.board.roster.Apart := by
  intro a i hi k hk
  exact h a i k ((hm.holds_iff i a).mpr hi) ((hm.holds_iff k a).mpr hk)

include hn

theorem getElem?_reordered (k : Fin c.peers.length) :
    n.board.roster.peers[(k : Nat)]? = m.board.roster.peers[(σ k : Nat)]? :=
  hm.getElem?_congr hn (Settings.getElem?_reordered k)

omit hm in
theorem length_reordered : n.board.roster.peers.length = c.peers.length := by
  rw [← hn.peers.length_eq]
  exact List.length_ofFn

/-- The peers of one entry are counterparts of each other. -/
theorem counterpart_reordered (h : c.Apart) (start : Moment) (k : Fin c.peers.length) :
    (m.board.course start).Counterpart (n.board.course start) (σ k) k :=
  hm.counterpart hn (Settings.getElem?_reordered k)
    ((hm.apart h).isLeast_reordered hn.length_reordered (hm.getElem?_reordered hn) k) start

/-- What is routed nowhere is routed nowhere in the other order. -/
theorem route_eq_unmatched_reordered (text : String) :
    n.board.roster.route text = .unmatched ↔ m.board.roster.route text = .unmatched :=
  Roster.route_eq_unmatched_reordered hm.peers.length_eq.symm hn.length_reordered
    (hm.getElem?_reordered hn) text

end Monitor.BuiltFrom

/-! ## Two runs -/

namespace Session

variable {c d : Settings} {address address' : String} {verbose : Bool} {start : Moment}
  {steps : List Board.Step}

/-- What a check owes, place by place. -/
theorem postings_eq_finRange {s : Session} {size : Nat}
    (h : s.monitor.board.roster.peers.length = size) :
    s.postings = (List.finRange size).filterMap fun k : Fin size => s.posting? k := by
  rw [postings, h, ← List.map_coe_finRange_eq_range, List.filterMap_map]
  rfl

/-- What the checks of the second monitor owe, told by the first one, if the same checks get past
counterparts. -/
theorem postings_reordered {m n : Monitor} (hm : m.BuiltFrom c verbose) (hn : n.BuiltFrom d verbose)
    (haware : (m.board.course start).Aware steps) (haware' : (n.board.course start).Aware steps)
    (steady steady' : Binary64) {size : Nat} (hsize : n.board.roster.peers.length = size)
    {σ : Fin size → Nat}
    (h : ∀ k, (m.board.course start).Counterpart (n.board.course start) (σ k) k)
    (hreach : ∀ k past, past <+: steps →
      (k.val < (n.board.course start).reach past ↔ σ k < (m.board.course start).reach past)) :
    ((Session.mk n start steady').atChecks steps).map postings =
      ((Session.mk m start steady).atChecks steps).map fun u =>
        (List.finRange size).filterMap fun k => u.posting? (σ k) := by
  apply map_atChecks_congr hm haware steady hn haware' steady'
  intro past hpast u v hu hv
  have hbefore : past <+: steps := (List.prefix_append past _).trans hpast
  have hlen : v.monitor.board.roster.peers.length = size := by
    rw [hv.peers_eq, Board.Course.length_peersAfter, ← hsize]
    rfl
  -- a counterpart owes the same, if the check gets to both or to neither
  have hposting : ∀ k : Fin size, v.posting? k = u.posting? (σ k) := by
    intro k
    refine hu.posting?_counterpart hv (h k) (fun earlier hearlier => hreach k earlier ?_) ?_
    · exact (List.prefix_append earlier _).trans (hearlier.trans hbefore)
    · rw [hu.clears_iff (Board.fresh_course hm start), hv.clears_iff (Board.fresh_course hn start),
        hreach k past hbefore]
  simp only [postings_eq_finRange hlen, hposting]

/-- **Order matters only for overlapping ranges.** No address is in two networks of a configuration,
and its thresholds can be written. A monitor is built from it, another one from its entries in any
other order, and they live through the same steps, with a clock that shows zones. Then the peers of
the same entry are the same in both runs, every text is routed to the same entry, and each check
owes the same postings. Both monitors hand them over in their own order.

With a threshold that cannot be written, the checks end at its peer once that peer is being counted;
a peer that stands behind it in one order and in front of it in the other is not the same then. -/
theorem reordered_alike {σ : Equiv.Perm (Fin c.peers.length)} (hc : c.Buildable)
    (hwritable : c.Writable) (hapart : c.Apart) (haddress : address ≠ "")
    (haddress' : address' ≠ "")
    (carrier carrier' : Carrier) (steady steady' : Binary64) (hstart : start.Aware)
    (hsteps : ∀ step ∈ steps, step.Aware) :
    ∃ m n, Monitor.build c address verbose (.ok carrier) = .ok m ∧
      Monitor.build (c.reordered σ) address' verbose (.ok carrier') = .ok n ∧
    let s := Session.mk m start steady
    let t := Session.mk n start steady'
    let first := (s.after steps).monitor.board.roster
    let second := (t.after steps).monitor.board.roster
    first.peers.length = c.peers.length ∧ second.peers.length = c.peers.length ∧
    (∀ k : Fin c.peers.length, second.peers[(k : Nat)]? = first.peers[(σ k : Nat)]?) ∧
    (∀ text, (second.route text = .unreadable ↔ first.route text = .unreadable) ∧
      (second.route text = .unmatched ↔ first.route text = .unmatched) ∧
      ∀ k : Fin c.peers.length, second.route text = .peer k ↔ first.route text = .peer (σ k)) ∧
    (∀ u ∈ s.atChecks steps, u.Dispatches
      ((List.finRange c.peers.length).filterMap fun i : Fin _ => u.posting? i)) ∧
    (∀ v ∈ t.atChecks steps, v.Dispatches v.postings) ∧
    (t.atChecks steps).map postings = (s.atChecks steps).map (fun u =>
      (List.finRange c.peers.length).filterMap fun k => u.posting? (σ k)) := by
  obtain ⟨m, hbuild, hm⟩ := Monitor.exists_build hc haddress verbose carrier
  have hc' : (c.reordered σ).Buildable := hc.reordered
  obtain ⟨n, hbuild', hn⟩ := Monitor.exists_build hc' haddress' verbose carrier'
  refine ⟨m, n, hbuild, hbuild', ?_⟩
  intro s t first second
  have haware : (m.board.course start).Aware steps := ⟨hstart, hsteps⟩
  have haware' : (n.board.course start).Aware steps := ⟨hstart, hsteps⟩
  have hcounter := hm.counterpart_reordered hn hapart start
  -- in both orders every check gets to the end
  have hreach : ∀ (k : Fin c.peers.length) past, past <+: steps →
      (k.val < (n.board.course start).reach past ↔
        (σ k).val < (m.board.course start).reach past) := by
    intro k past hpast
    rw [reach_of_writable hm hwritable (haware.of_past hpast),
      reach_of_writable hn hwritable.reordered (haware'.of_past hpast), Settings.length_reordered]
    exact iff_of_true k.isLt (σ k).isLt
  have hpeers : first.peers = _ := peers_after_of_build hm start steady steps
  have hpeers' : second.peers = _ := peers_after_of_build hn start steady' steps
  have hroute : ∀ text, first.route text = _ := route_after_of_build hm start steady steps
  have hroute' : ∀ text, second.route text = _ := route_after_of_build hn start steady' steps
  have hfirst : first.peers.length = c.peers.length := by
    rw [hpeers, Board.Course.length_peersAfter]
    exact hm.peers.length_eq.symm
  refine ⟨hfirst, ?_, ?_, ?_, ?_, dispatches_atChecks hn haware' steady', ?_⟩
  · rw [hpeers', Board.Course.length_peersAfter]
    exact hn.length_reordered
  · intro k
    rw [hpeers, hpeers', (hcounter k).getElem?_peersAfter]
    exact fun past hpast => hreach k past ((List.prefix_append past _).trans hpast)
  · intro text
    rw [hroute, hroute', Roster.route_eq_unreadable_iff, Roster.route_eq_unreadable_iff]
    exact ⟨Iff.rfl, hm.route_eq_unmatched_reordered hn text, fun k => (hcounter k).route text⟩
  · intro u hu
    obtain ⟨past, -, hfollows⟩ := follows_atChecks hm haware steady hu
    have hlen : u.monitor.board.roster.peers.length = c.peers.length := by
      rw [hfollows.peers_eq, Board.Course.length_peersAfter]
      exact hm.peers.length_eq.symm
    rw [← postings_eq_finRange hlen]
    exact hfollows.dispatches
  · exact postings_reordered hm hn haware haware' steady steady' hn.length_reordered hcounter hreach

/-- Two halves of a range in either order: each one is told of when its packet has come, and a check
that tells of both does so in the order of the entries. -/
theorem reordered_alike_halves :
    let c : Settings := ⟨2, 2, "1s", "10s", "", ⟨"slack", []⟩,
      [⟨"lower", "10.0.0.0/25", 0, 0, ""⟩, ⟨"upper", "10.0.0.128/25", 0, 0, ""⟩]⟩
    let start : Moment := ⟨0, some .utc⟩
    let steps : List Board.Step := [.packet "10.0.0.200", .check, .packet "10.0.0.5", .check]
    let titles := fun u : Session => u.postings.map fun posting => posting.notice.title
    c.Apart ∧
    ∃ m n, Monitor.build c "0.0.0.0" true (.ok (.rehearsal [] 0)) = .ok m ∧
      Monitor.build (c.reordered Fin.revPerm) "0.0.0.0" true (.ok (.rehearsal [] 0)) = .ok n ∧
    let s := Session.mk m start (.finite false 0)
    let t := Session.mk n start (.finite false 0)
    (t.after steps).monitor.board.roster.route "10.0.0.5" = .peer 1 ∧
    (s.after steps).monitor.board.roster.route "10.0.0.5" = .peer 0 ∧
    (s.atChecks steps).map titles = [["Peer upper is Maybe Up (1 of 2)"],
      ["Peer lower is Maybe Up (1 of 2)", "Peer upper is Up"]] ∧
    (t.atChecks steps).map titles = [["Peer upper is Maybe Up (1 of 2)"],
      ["Peer upper is Up", "Peer lower is Maybe Up (1 of 2)"]] := by
  intro c start steps titles
  let lower : Net.Range := .around (.ofQuad 167772160) 25 (by decide)
  let upper : Net.Range := .around (.ofQuad 167772288) 25 (by decide)
  have hlower : Net.Range.parse "10.0.0.0/25" = .ok lower := by decide
  have hupper : Net.Range.parse "10.0.0.128/25" = .ok upper := by decide
  have hc : c.Buildable := .of_ranges (List.cons_ne_nil _ _) (.cons hlower (.cons hupper .nil))
  have hapart : c.Apart := Settings.apart_of_pair rfl hlower hupper (by decide)
  obtain ⟨m, n, hbuild, hbuild', -, -, -, hroute, -, -, hpostings⟩ :=
    @reordered_alike c "0.0.0.0" "0.0.0.0" true start steps Fin.revPerm hc (by decide +kernel)
      hapart (by decide) (by decide) (.rehearsal [] 0) (.rehearsal [] 0) (.finite false 0)
      (.finite false 0) rfl (by decide)
  obtain rfl := Monitor.eq_around_of_build hbuild
    [⟨"lower", lower, none, .start ⟨2, 2⟩, none, .free⟩,
      ⟨"upper", upper, none, .start ⟨2, 2⟩, none, .free⟩] rfl
  -- the route of the second run is taken from that of the first
  have hfirst := fun text => ((hroute text).2.2 ⟨1, by decide⟩).mpr
  refine ⟨hapart, _, n, hbuild, hbuild', hfirst _ ?_, ?_, ?_, ?_⟩
  · decide +kernel
  · decide +kernel
  · decide +kernel
  · have hshown := congrArg
      (List.map fun owed : List Posting => owed.map fun posting => posting.notice.title) hpostings
    rw [List.map_map] at hshown
    refine hshown.trans ?_
    decide +kernel

/-- A peer is counted where it stands in front of one whose threshold is too long to be written, and
is not where it stands behind it. -/
theorem order_decides_beside_long_threshold :
    let c : Settings := ⟨Nat.pow 16 3600, 2, "1s", "10s", "", ⟨"slack", []⟩,
      [⟨"lower", "10.0.0.0/25", 0, 0, ""⟩, ⟨"upper", "10.0.0.128/25", 2, 0, ""⟩]⟩
    let start : Moment := ⟨0, some .utc⟩
    let steps : List Board.Step := [.packet "10.0.0.5", .packet "10.0.0.200", .check]
    let phases := fun m =>
      ((Session.mk m start (.finite false 0)).after steps).monitor.board.roster.peers.map fun p =>
        (p.name, p.debouncer.phase)
    c.Apart ∧
    ∃ m n, Monitor.build c "0.0.0.0" false (.ok (.rehearsal [] 0)) = .ok m ∧
      Monitor.build (c.reordered Fin.revPerm) "0.0.0.0" false (.ok (.rehearsal [] 0)) = .ok n ∧
      phases m = [("lower", .down), ("upper", .down)] ∧
      phases n = [("upper", .maybeUp 1), ("lower", .down)] := by
  intro c start steps phases
  let lower : Net.Range := .around (.ofQuad 167772160) 25 (by decide)
  let upper : Net.Range := .around (.ofQuad 167772288) 25 (by decide)
  have hlower : Net.Range.parse "10.0.0.0/25" = .ok lower := by decide
  have hupper : Net.Range.parse "10.0.0.128/25" = .ok upper := by decide
  have hc : c.Buildable := .of_ranges (List.cons_ne_nil _ _) (.cons hlower (.cons hupper .nil))
  obtain ⟨m, hbuild, -⟩ := @Monitor.exists_build _ hc "0.0.0.0" (by decide) false
    (.rehearsal [] 0)
  obtain ⟨n, hbuild', -⟩ := @Monitor.exists_build (c.reordered Fin.revPerm) hc.reordered
    "0.0.0.0" (by decide) false (.rehearsal [] 0)
  refine ⟨Settings.apart_of_pair rfl hlower hupper (by decide), m, n, hbuild, hbuild', ?_, ?_⟩
  · obtain rfl := Monitor.eq_around_of_build hbuild
      [⟨"lower", lower, none, .start ⟨Nat.pow 16 3600, 2⟩, none, .free⟩,
        ⟨"upper", upper, none, .start ⟨2, 2⟩, none, .free⟩] rfl
    decide +kernel
  · -- the peer whose threshold is too long comes last, and the check gets to the other one
    obtain rfl := Monitor.eq_around_of_build hbuild'
      [⟨"upper", upper, none, .start ⟨2, 2⟩, none, .free⟩,
        ⟨"lower", lower, none, .start ⟨Nat.pow 16 3600, 2⟩, none, .free⟩] (by decide +kernel)
    decide +kernel

end Session
end EchoWatch
