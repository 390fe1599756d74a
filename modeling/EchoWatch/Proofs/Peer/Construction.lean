import EchoWatch.Proofs.Peer.Routing
import EchoWatch.Proofs.Watch.Build
/-!
# The construction of a roster

A roster is made from all entries of a configuration or not at all. What comes of it is told here
entry by entry: which entry is to blame if there is no roster, and what each peer has from its entry
and from the common settings if there is one.

* **`FirstUnreadable`**: the entry that is to blame, and what is said about it.
* **`Represents`**: what a peer has from its entry.
* **`built_exactly`**: these two describe the construction, with nothing left open.
-/

namespace EchoWatch.Roster

/-! ## The entry that is to blame -/

/-- An entry fails for its network only, and the error names the entry and the network. -/
theorem peerOf_eq_error_iff {s : Settings} {e : PeerSettings} {bad : Peer.BadRange} :
    peerOf s e = .error bad ↔ Net.Range.parse e.network = .error bad.reason ∧
      bad.peer = e.name ∧ bad.network = e.network := by
  obtain ⟨peer, network, reason⟩ := bad
  unfold peerOf Peer.new Peer.parseRange
  cases Net.Range.parse e.network with
  | ok range => simp [Except.map, Except.mapError]
  | error cause =>
    simp only [Except.map, Except.mapError, Except.error.injEq, Peer.BadRange.mk.injEq]
    constructor
    · rintro ⟨rfl, rfl, rfl⟩
      exact ⟨rfl, rfl, rfl⟩
    · rintro ⟨rfl, rfl, rfl⟩
      exact ⟨rfl, rfl, rfl⟩

/-- The networks of some entries can be read up to one, and the error is about that one. -/
def FirstUnreadable (entries : List PeerSettings) (bad : Peer.BadRange) : Prop :=
  ∃ before e after, entries = before ++ e :: after ∧
    (∀ d ∈ before, ∃ range, Net.Range.parse d.network = .ok range) ∧
    Net.Range.parse e.network = .error bad.reason ∧ bad.peer = e.name ∧ bad.network = e.network

/-- If the first entry cannot be read, it is the one to blame. -/
theorem firstUnreadable_cons_of_error {e : PeerSettings} {entries : List PeerSettings}
    {bad : Peer.BadRange} {reason : Net.Range.ParseError}
    (he : Net.Range.parse e.network = .error reason) :
    FirstUnreadable (e :: entries) bad ↔ bad = ⟨e.name, e.network, reason⟩ := by
  constructor
  · rintro ⟨before, d, after, hsplit, hread, hreason, hpeer, hnetwork⟩
    cases before with
    | nil =>
      obtain ⟨rfl, -⟩ := List.cons.inj hsplit
      have hsame : reason = bad.reason := Except.error.inj (he.symm.trans hreason)
      rw [hsame, ← hpeer, ← hnetwork]
    | cons first before =>
      -- the first entry would have been read
      obtain ⟨rfl, -⟩ := List.cons.inj hsplit
      obtain ⟨range, hrange⟩ := hread e List.mem_cons_self
      cases he.symm.trans hrange
  · rintro rfl
    exact ⟨[], e, entries, rfl, List.forall_mem_nil _, he, rfl, rfl⟩

/-- If it can, the one to blame is among the others. -/
theorem firstUnreadable_cons_of_ok {e : PeerSettings} {entries : List PeerSettings}
    {bad : Peer.BadRange} {range : Net.Range} (he : Net.Range.parse e.network = .ok range) :
    FirstUnreadable (e :: entries) bad ↔ FirstUnreadable entries bad := by
  constructor
  · rintro ⟨before, d, after, hsplit, hread, hbad⟩
    cases before with
    | nil =>
      obtain ⟨rfl, -⟩ := List.cons.inj hsplit
      cases he.symm.trans hbad.1
    | cons first before =>
      obtain ⟨rfl, htail⟩ := List.cons.inj hsplit
      exact ⟨before, d, after, htail, fun d' hd' => hread d' (List.mem_cons_of_mem _ hd'), hbad⟩
  · rintro ⟨before, d, after, rfl, hread, hbad⟩
    exact ⟨e :: before, d, after, rfl, List.forall_mem_cons.mpr ⟨⟨range, he⟩, hread⟩, hbad⟩

/-- The peers fail at the first entry to blame. Induction on the entries, in step with the two
lemmas above. -/
theorem peersOf_eq_error_iff {s : Settings} {entries : List PeerSettings} {bad : Peer.BadRange} :
    peersOf s entries = .error bad ↔ FirstUnreadable entries bad := by
  induction entries with
  | nil =>
    rw [peersOf]
    refine iff_of_false (by simp) ?_
    rintro ⟨before, e, after, hsplit, -⟩
    exact List.append_ne_nil_of_right_ne_nil before (List.cons_ne_nil e after) hsplit.symm
  | cons e entries ih =>
    cases he : Net.Range.parse e.network with
    | error reason =>
      -- the first entry fails, and no other one is looked at
      have hpeer : peerOf s e = .error ⟨e.name, e.network, reason⟩ :=
        peerOf_eq_error_iff.mpr ⟨he, rfl, rfl⟩
      rw [firstUnreadable_cons_of_error he, peersOf, hpeer, Except.error.injEq, eq_comm]
    | ok range =>
      -- the first entry is read, and what fails is among the others
      have hpeer := (peerOf_eq_ok_iff (s := s) (e := e)).mpr ⟨range, he, rfl⟩
      rw [firstUnreadable_cons_of_ok he, ← ih, peersOf, hpeer]
      cases peersOf s entries <;> simp [Except.map]

/-- That there are no peers is said of the configuration, never of what was made of it. -/
theorem ofSettings_eq_noPeers_iff {s : Settings} :
    ofSettings s = .error .noPeers ↔ s.peers = [] := by
  unfold ofSettings
  cases hs : s.peers with
  | nil => simp
  | cons e entries =>
    rw [if_neg (by simp)]
    refine iff_of_false ?_ (List.cons_ne_nil e entries)
    cases hpeers : peersOf s (e :: entries) with
    | error bad => simp
    | ok peers =>
      have hall := peersOf_eq_ok_iff.mp hpeers
      cases hall with
      -- as many peers as entries, and there is one at least
      | cons _ _ => simp [ofPeers]

/-- A network to blame is the first one. -/
theorem ofSettings_eq_badRange_iff {s : Settings} {bad : Peer.BadRange} :
    ofSettings s = .error (.badRange bad) ↔ FirstUnreadable s.peers bad := by
  rw [← peersOf_eq_error_iff (s := s)]
  unfold ofSettings
  cases hs : s.peers with
  | nil => simp [peersOf]
  | cons e entries =>
    rw [if_neg (by simp)]
    cases hpeers : peersOf s (e :: entries) with
    | error cause => simp
    | ok peers =>
      dsimp only [ofPeers]
      split <;> simp

/-! ## The peers -/

/-- What a peer has from its entry: what the entry leaves open is as the common settings have it,
and nothing is known of the peer yet. -/
structure Represents (s : Settings) (e : PeerSettings) (p : Peer) : Prop where
  name : p.name = e.name
  range : Net.Range.parse e.network = .ok p.range
  up : p.debouncer.limits.up = if e.upThreshold ≠ 0 then e.upThreshold else s.upThreshold
  down : p.debouncer.limits.down = if e.downThreshold ≠ 0 then e.downThreshold else s.downThreshold
  webhook : p.webhook = if e.webhook ≠ "" then some e.webhook else
    if s.webhook ≠ "" then some s.webhook else none
  phase : p.debouncer.phase = .down
  lastSeen : p.lastSeen = none
  gate : p.gate = .free

/-- A threshold of zero is none of its own. -/
theorem threshold_eq (own common : Int) :
    threshold own common = if own ≠ 0 then own else common := by
  unfold threshold
  split <;> simp [*]

/-- A webhook that was chosen is not empty, so that none is dropped afterwards. -/
theorem webhook_filter (own common : String) :
    (webhook own common).filter (· ≠ "") =
      if own ≠ "" then some own else if common ≠ "" then some common else none := by
  unfold webhook
  split
  next hown => simp [hown]
  next =>
    split
    next hcommon => simp [hcommon]
    next => rfl

/-- An entry makes the peer that represents it, and makes no other one. -/
theorem peerOf_eq_ok_iff_represents {s : Settings} {e : PeerSettings} {p : Peer} :
    peerOf s e = .ok p ↔ Represents s e p := by
  rw [peerOf_eq_ok_iff, webhook_filter, threshold_eq, threshold_eq]
  constructor
  · -- each field is the one of the new peer
    rintro ⟨range, hrange, rfl⟩
    exact ⟨rfl, hrange, rfl, rfl, rfl, rfl, rfl, rfl⟩
  · intro h
    refine ⟨p.range, h.range, ?_⟩
    obtain ⟨name, range, webhook, ⟨phase, ⟨up, down⟩⟩, lastSeen, gate⟩ := p
    obtain ⟨rfl, -, rfl, rfl, rfl, rfl, rfl, rfl⟩ := h
    rfl

/-- The peer that is found by a name is the first one with it. -/
theorem find?_eq_some_iff {r : Roster} {name : String} {i : Nat} :
    r.find? name = some i ↔ IsLeast {i | ∃ p, r.peers[i]? = some p ∧ p.name = name} i := by
  unfold find?
  rw [findIdx?_eq_some_iff_isLeast]
  simp only [decide_eq_true_eq]

/-- None is found where no peer has the name. -/
theorem find?_eq_none_iff {r : Roster} {name : String} :
    r.find? name = none ↔ ∀ p ∈ r.peers, p.name ≠ name := by
  unfold find?
  rw [List.findIdx?_eq_none_iff]
  simp only [decide_eq_false_iff_not, ne_eq]

/-- **What is built.** Without entries there is no roster. With an entry whose network cannot be
read there is none either, and the error is about the first such entry. Otherwise there is a roster,
with a peer for each entry in its place, and its peers are found by name, the first one of several
with the same. -/
theorem built_exactly (s : Settings) :
    (ofSettings s = .error .noPeers ↔ s.peers = []) ∧
    ((∃ bad, ofSettings s = .error (.badRange bad)) ↔
      ∃ e ∈ s.peers, ∃ reason, Net.Range.parse e.network = .error reason) ∧
    (∀ bad, ofSettings s = .error (.badRange bad) ↔ FirstUnreadable s.peers bad) ∧
    (∀ r, ofSettings s = .ok r ↔
      s.peers ≠ [] ∧ List.Forall₂ (Represents s) s.peers r.peers) ∧
    ∀ (r : Roster) (name : String),
      (∀ i, r.find? name = some i ↔
        IsLeast {i | ∃ p, r.peers[i]? = some p ∧ p.name = name} i) ∧
      (r.find? name = none ↔ ∀ p ∈ r.peers, p.name ≠ name) := by
  refine ⟨ofSettings_eq_noPeers_iff, ?_, fun bad => ofSettings_eq_badRange_iff, ?_, ?_⟩
  · constructor
    · rintro ⟨bad, hbad⟩
      obtain ⟨before, e, after, hsplit, -, hreason, -⟩ := ofSettings_eq_badRange_iff.mp hbad
      have he : e ∈ s.peers := by rw [hsplit]; simp
      exact ⟨e, he, bad.reason, hreason⟩
    · rintro ⟨e, he, reason, hreason⟩
      cases hbuilt : ofSettings s with
      | ok r =>
        -- every entry would have been read
        obtain ⟨i, hi, rfl⟩ := List.getElem_of_mem he
        have hall := (ofSettings_eq_ok_iff.mp hbuilt).2
        have hpeer := hall.get hi (by rw [← hall.length_eq]; exact hi)
        obtain ⟨range, hrange, -⟩ := peerOf_eq_ok_iff.mp hpeer
        cases hreason.symm.trans hrange
      | error cause =>
        cases cause with
        | noPeers =>
          rw [ofSettings_eq_noPeers_iff.mp hbuilt] at he
          cases he
        | badRange bad => exact ⟨bad, rfl⟩
  · intro r
    simp only [ofSettings_eq_ok_iff, peerOf_eq_ok_iff_represents]
  · intro r name
    exact ⟨fun i => find?_eq_some_iff, find?_eq_none_iff⟩

end EchoWatch.Roster
