import EchoWatch.Proofs.Peer.Holders
import EchoWatch.Proofs.Watch.Record
/-!
# Counterparts

A peer keeps its entry when the list that it stands in is changed, but its place may become another
one. Two monitors are built, from a configuration and from other entries of the same configuration.
A peer of the first and a peer of the second are counterparts when they come from the same entry and
get the same packets, whatever else the lists hold.

* **`Settings.Holds`**: the addresses in the network of an entry, straight from its text.
* **`Course.Counterpart.getElem?_peersAfter`**: counterparts are the same peer after every run in
  which the same checks get past both.
* **`Session.map_posting?_counterpart`**: every check then owes the same for both.
-/

namespace EchoWatch

/-! ## Entries -/

/-- The network of entry `i` holds an address. -/
def Settings.Holds (c : Settings) (i : Nat) (a : Net.Address) : Prop :=
  ∃ e written length, c.peers[i]? = some e ∧ Net.Range.Written e.network written length ∧
    Net.Range.Covers written length a

/-- An entry holds what its range contains. -/
theorem Settings.holds_iff_contains {c : Settings} {i : Nat} {e : PeerSettings} {range : Net.Range}
    (he : c.peers[i]? = some e) (hrange : Net.Range.parse e.network = .ok range)
    (a : Net.Address) : c.Holds i a ↔ range.contains a = true := by
  rw [Net.Range.contains_iff_of_parse hrange]
  constructor
  · rintro ⟨e', written, length, he', hheld⟩
    obtain rfl : e = e' := Option.some.inj (he.symm.trans he')
    exact ⟨written, length, hheld⟩
  · rintro ⟨written, length, hheld⟩
    exact ⟨e, written, length, he, hheld⟩

/-- Some of the entries of a buildable configuration are buildable. -/
theorem Settings.Buildable.of_subset {c : Settings} {entries : List PeerSettings}
    (hc : c.Buildable) (hne : entries ≠ []) (hsub : entries ⊆ c.peers) :
    Settings.Buildable { c with peers := entries } :=
  ⟨hne, fun e he => hc.networks e (hsub he)⟩

namespace Monitor.BuiltFrom

variable {c : Settings} {entries : List PeerSettings} {verbose verbose' : Bool} {m n : Monitor}
  {i k : Nat} (hm : m.BuiltFrom c verbose)
  (hn : n.BuiltFrom { c with peers := entries } verbose')
include hm

/-- The peer at a place is made of the entry there. -/
theorem getElem?_eq (i : Nat) :
    m.board.roster.peers[i]? = (c.peers[i]?).bind fun e => (Roster.peerOf c e).toOption := by
  cases he : c.peers[i]? with
  | none =>
    rw [List.getElem?_eq_none_iff, hm.peers.length_eq] at he
    exact List.getElem?_eq_none he
  | some e =>
    obtain ⟨p, hp, hi⟩ := hm.exists_peer he
    rw [hi, Option.bind_some, hp]
    rfl

/-- The ranges of a monitor hold what is written in the networks of its configuration. -/
theorem holds_iff (i : Nat) (a : Net.Address) : c.Holds i a ↔ i ∈ m.board.roster.holders a := by
  cases he : c.peers[i]? with
  | none =>
    have hnone : m.board.roster.peers[i]? = none := by rw [hm.getElem?_eq, he]; rfl
    simp [Settings.Holds, Roster.holders, he, hnone]
  | some e =>
    obtain ⟨p, hpe, hp⟩ := hm.exists_peer he
    obtain ⟨range, hrange, rfl⟩ := Roster.peerOf_eq_ok_iff.mp hpe
    rw [Settings.holds_iff_contains he hrange]
    simp [Roster.holders, hp]

include hn

/-- An entry becomes the same peer in either list. -/
theorem getElem?_congr (hentry : entries[k]? = c.peers[i]?) :
    n.board.roster.peers[k]? = m.board.roster.peers[i]? := by
  rw [hn.getElem?_eq, hm.getElem?_eq]
  -- the peer of an entry takes from its configuration what stands beside the list of entries
  exact congrArg (Option.bind · _) hentry

end Monitor.BuiltFrom

/-! ## Courses -/

namespace Board.Course

/-- Peer `k` of the second course is peer `i` of the first one, and the same packets are for it. -/
structure Counterpart (c d : Course) (i k : Nat) : Prop where
  timeout : d.timeout = c.timeout
  opening : d.opening = c.opening
  peer : d.roster.peers[k]? = c.roster.peers[i]?
  route : ∀ address, d.roster.route address = .peer k ↔ c.roster.route address = .peer i

namespace Counterpart

variable {c d : Course} {i k : Nat} (h : c.Counterpart d i k)
include h

theorem feeds_eq (step : Step) : d.feeds k step = c.feeds i step := by
  cases step with
  | packet address => simp only [feeds, h.route]
  | clock now | check => rfl

theorem clock_eq (steps : List Step) : d.clock steps = c.clock steps :=
  clock_congr h.opening steps

variable {steps : List Step}
  (hreach : ∀ past, past ++ [.check] <+: steps → (k < d.reach past ↔ i < c.reach past))
include hreach

theorem peerAfter_eq (p : Peer) : d.peerAfter steps k p = c.peerAfter steps i p := by
  have hseen : d.lastSeen k steps = c.lastSeen i steps :=
    lastSeen_congr h.opening h.feeds_eq steps
  have hobserved : d.observations k steps = c.observations i steps :=
    observations_congr (observation_congr h.timeout h.opening h.feeds_eq) hreach
  rw [peerAfter, peerAfter, hseen, hobserved]

/-- Counterparts are the same peer after a run in which the same checks get past both. -/
theorem getElem?_peersAfter : (d.peersAfter steps)[k]? = (c.peersAfter steps)[i]? := by
  rw [Course.getElem?_peersAfter, Course.getElem?_peersAfter, h.peer]
  congr 1
  exact funext (h.peerAfter_eq hreach)

end Counterpart
end Board.Course

/-- Peers of the same entry that are the least holders of the same addresses are counterparts. -/
theorem Monitor.BuiltFrom.counterpart {c : Settings} {entries : List PeerSettings}
    {verbose verbose' : Bool} {m n : Monitor} {i k : Nat} (hm : m.BuiltFrom c verbose)
    (hn : n.BuiltFrom { c with peers := entries } verbose')
    (hentry : entries[k]? = c.peers[i]?)
    (hleast : ∀ a, IsLeast (m.board.roster.holders a) i ↔ IsLeast (n.board.roster.holders a) k)
    (start : Moment) : (m.board.course start).Counterpart (n.board.course start) i k where
  timeout := hn.timeout.trans hm.timeout.symm
  opening := rfl
  peer := hm.getElem?_congr hn hentry
  route address := (Roster.route_eq_peer_congr hleast address).symm

/-! ## Sessions -/

namespace Session

section Follows

variable {course course' : Board.Course} {verbose : Bool} {steps : List Board.Step}
  {s t : Session} {i k : Nat} (hs : s.Follows course verbose steps)
  (ht : t.Follows course' verbose steps) (h : course.Counterpart course' i k)
include hs ht h

/-- In two sessions the counterparts are the same peer. -/
theorem Follows.peer?_counterpart
    (hreach : ∀ past, past ++ [.check] <+: steps →
      (k < course'.reach past ↔ i < course.reach past)) :
    t.peer? k = s.peer? i := by
  rw [peer?, peer?, ht.peers_eq, hs.peers_eq, h.getElem?_peersAfter hreach]

/-- A check that gets past both or neither of them owes the same for both. -/
theorem Follows.posting?_counterpart
    (hreach : ∀ past, past ++ [.check] <+: steps → (k < course'.reach past ↔ i < course.reach past))
    (hclears : t.Clears k ↔ s.Clears i) : t.posting? k = s.posting? i := by
  rw [ht.posting?_eq, hs.posting?_eq, hs.peer?_counterpart ht h hreach, h.timeout, h.clock_eq]
  simp only [hclears]

end Follows

/-- At each check of two runs, the same is owed for counterparts. -/
theorem map_posting?_counterpart {c d : Settings} {verbose : Bool} {m n : Monitor} {start : Moment}
    {steps : List Board.Step} (hm : m.BuiltFrom c verbose) (hn : n.BuiltFrom d verbose)
    (haware : (m.board.course start).Aware steps) (haware' : (n.board.course start).Aware steps)
    (steady steady' : Binary64) {i k : Nat}
    (h : (m.board.course start).Counterpart (n.board.course start) i k)
    (hreach : ∀ past, past <+: steps →
      (k < (n.board.course start).reach past ↔ i < (m.board.course start).reach past)) :
    ((Session.mk n start steady').atChecks steps).map (fun v => v.posting? k) =
      ((Session.mk m start steady).atChecks steps).map fun u => u.posting? i := by
  refine map_atChecks_congr hm haware steady hn haware' steady' fun past hpast u v hu hv => ?_
  have hbefore : past <+: steps := (List.prefix_append past _).trans hpast
  have hclears : v.Clears k ↔ u.Clears i := by
    rw [hu.clears_iff (Board.fresh_course hm start), hv.clears_iff (Board.fresh_course hn start),
      hreach past hbefore]
  refine hu.posting?_counterpart hv h (fun earlier hearlier => hreach earlier ?_) hclears
  exact (List.prefix_append earlier _).trans (hearlier.trans hbefore)

end Session
end EchoWatch
