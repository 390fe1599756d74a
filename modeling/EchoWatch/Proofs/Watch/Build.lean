import EchoWatch.Proofs.Debouncer.Name
import EchoWatch.Proofs.Delivery.Outbox
import EchoWatch.Watch.Monitor
import Mathlib.Data.List.Forall2
/-!
# What is built from a configuration

A roster has one peer for each entry of its configuration, in order, and every peer starts
`Fresh`: down, never seen, its gate free. A board and a monitor are built around a roster and add
nothing to its peers.

* **`Settings.Buildable`**: there are peers, and their networks can be read. Nothing else about a
  configuration can keep a monitor from being built (`Monitor.exists_build`).
* **`Settings.Writable`**: all thresholds can be written, so that every state of a peer has a name.
* **`Monitor.BuiltFrom`**: what the monitor then has from its configuration.
-/

namespace EchoWatch

/-! ## Peers

An entry makes a peer if its network can be read. Nothing else in an entry can fail. -/

/-- A peer about which nothing is known yet. -/
structure Peer.Fresh (p : Peer) : Prop where
  lastSeen : p.lastSeen = none
  debouncer : p.debouncer = .start p.debouncer.limits
  gate : p.gate = .free

namespace Roster

/-- The peer of an entry, field by field. -/
theorem peerOf_eq_ok_iff {s : Settings} {e : PeerSettings} {p : Peer} :
    peerOf s e = .ok p ↔ ∃ range, Net.Range.parse e.network = .ok range ∧
      p = { name := e.name, range
            webhook := (webhook e.webhook s.webhook).filter (· ≠ "")
            debouncer := .start ⟨threshold e.upThreshold s.upThreshold,
              threshold e.downThreshold s.downThreshold⟩
            lastSeen := none
            gate := .free } := by
  unfold peerOf Peer.new Peer.parseRange
  cases Net.Range.parse e.network with
  | error reason => simp [Except.map, Except.mapError]
  | ok range => simp [Except.map, Except.mapError, eq_comm]

/-- A peer starts down, with the thresholds that its entry leads to. -/
theorem debouncer_of_peerOf {s : Settings} {e : PeerSettings} {p : Peer} (h : peerOf s e = .ok p) :
    p.debouncer = .start ⟨threshold e.upThreshold s.upThreshold,
      threshold e.downThreshold s.downThreshold⟩ := by
  obtain ⟨range, -, rfl⟩ := peerOf_eq_ok_iff.mp h
  rfl

/-- A peer has the name of its entry. -/
theorem name_of_peerOf {s : Settings} {e : PeerSettings} {p : Peer} (h : peerOf s e = .ok p) :
    p.name = e.name := by
  obtain ⟨range, -, rfl⟩ := peerOf_eq_ok_iff.mp h
  rfl

/-- Nothing is known yet of the peer of an entry. -/
theorem fresh_of_peerOf {s : Settings} {e : PeerSettings} {p : Peer} (h : peerOf s e = .ok p) :
    p.Fresh := by
  obtain ⟨range, -, rfl⟩ := peerOf_eq_ok_iff.mp h
  exact ⟨rfl, rfl, rfl⟩

/-! ## Rosters

Entries are read one after the other, and one that fails ends it. Peers and entries can therefore be
matched place by place. -/

/-- The peers of some entries are the peer of each. Induction on the entries. -/
theorem peersOf_eq_ok_iff {s : Settings} {entries : List PeerSettings} {peers : List Peer} :
    peersOf s entries = .ok peers ↔
      List.Forall₂ (fun e p => peerOf s e = .ok p) entries peers := by
  induction entries generalizing peers with
  | nil => cases peers <;> simp [peersOf]
  | cons e entries ih =>
    rw [peersOf, List.forall₂_cons_left_iff]
    cases hp : peerOf s e with
    | error reason => simp
    | ok p =>
      cases hrest : peersOf s entries with
      | error reason =>
        -- no list of peers matches the other entries
        have hno : ∀ rest, ¬ List.Forall₂ (fun e p => peerOf s e = .ok p) entries rest := by
          intro rest hall
          rw [hrest] at ih
          cases ih.mpr hall
        simp [Except.map, hno]
      | ok rest =>
        constructor
        · rintro ⟨⟩
          exact ⟨p, rest, rfl, ih.mp hrest, rfl⟩
        · rintro ⟨q, rest', hq, hall, rfl⟩
          obtain rfl : p = q := Except.ok.inj hq
          have hsame := ih.mpr hall
          rw [hrest] at hsame
          rw [Except.ok.inj hsame]
          rfl

/-- If every network can be read, there are peers. -/
theorem exists_peers {s : Settings} {entries : List PeerSettings}
    (h : ∀ e ∈ entries, ∃ range, Net.Range.parse e.network = .ok range) :
    ∃ peers, List.Forall₂ (fun e p => peerOf s e = .ok p) entries peers := by
  induction entries with
  | nil => exact ⟨[], .nil⟩
  | cons e entries ih =>
    obtain ⟨range, hrange⟩ := h e List.mem_cons_self
    obtain ⟨peers, hall⟩ := ih fun e' he' => h e' (List.mem_cons_of_mem _ he')
    exact ⟨_ :: peers, .cons (peerOf_eq_ok_iff.mpr ⟨range, hrange, rfl⟩) hall⟩

/-- There is a roster if there are entries and each of them makes a peer. -/
theorem ofSettings_eq_ok_iff {s : Settings} {r : Roster} :
    ofSettings s = .ok r ↔
      s.peers ≠ [] ∧ List.Forall₂ (fun e p => peerOf s e = .ok p) s.peers r.peers := by
  unfold ofSettings
  cases hs : s.peers with
  | nil => simp
  | cons e entries =>
    rw [← peersOf_eq_ok_iff]
    cases hpeers : peersOf s (e :: entries) with
    | error reason => simp
    | ok peers =>
      -- there are as many peers as entries, and so the roster is not refused as empty
      have hne : peers.isEmpty = false := by
        have hlen := (peersOf_eq_ok_iff.mp hpeers).length_eq
        cases peers with
        | nil => simp at hlen
        | cons p rest => rfl
      simp only [List.isEmpty_cons, Bool.false_eq_true, if_false, ofPeers, hne]
      constructor
      · rintro ⟨⟩
        exact ⟨by simp, rfl⟩
      · rintro ⟨-, h⟩
        rw [Except.ok.inj h]

end Roster

/-! ## Boards and monitors

A board adds the timeout of the configuration, and a monitor its address and the carrier. Of these
only an empty address is refused. -/

/-- A board is a roster with the timeout of the configuration. -/
theorem Board.ofSettings_eq_ok_iff {s : Settings} {verbose : Bool} {b : Board} :
    Board.ofSettings s verbose = .ok b ↔ Roster.ofSettings s = .ok b.roster ∧
      b.timeout = s.timeout ∧ b.verbose = verbose := by
  unfold Board.ofSettings
  obtain ⟨roster, timeout, verbose'⟩ := b
  cases Roster.ofSettings s with
  | error e => simp [Except.map]
  | ok r => simp [Except.map, eq_comm]

/-- **What it takes to build a monitor**: an address, a board and a carrier. -/
theorem Monitor.build_eq_ok_iff {s : Settings} {address : String} {verbose : Bool}
    {carrier : Except BuildError Carrier} {m : Monitor} :
    Monitor.build s address verbose carrier = .ok m ↔
      address ≠ "" ∧ ∃ board c, Board.ofSettings s verbose = .ok board ∧ carrier = .ok c ∧
        m = around s address board c := by
  unfold Monitor.build
  by_cases ha : address = ""
  · simp [ha]
  · rw [if_neg ha]
    cases Board.ofSettings s verbose with
    | error e => simp
    | ok board => cases carrier <;> simp [Except.map, ha, eq_comm]

/-- What a monitor has from its configuration. -/
structure Monitor.BuiltFrom (s : Settings) (verbose : Bool) (m : Monitor) : Prop where
  peers : List.Forall₂ (fun e p => Roster.peerOf s e = .ok p) s.peers m.board.roster.peers
  timeout : m.board.timeout = s.timeout
  verbose : m.board.verbose = verbose
  running : m.outbox.Running

/-- A monitor that was built has these from its configuration. -/
theorem Monitor.builtFrom_of_build {s : Settings} {address : String} {verbose : Bool}
    {carrier : Except BuildError Carrier} {m : Monitor}
    (h : Monitor.build s address verbose carrier = .ok m) : m.BuiltFrom s verbose := by
  obtain ⟨-, board, c, hboard, -, rfl⟩ := Monitor.build_eq_ok_iff.mp h
  obtain ⟨hroster, htimeout, hverbose⟩ := Board.ofSettings_eq_ok_iff.mp hboard
  exact ⟨(Roster.ofSettings_eq_ok_iff.mp hroster).2, htimeout, hverbose, ⟨rfl, rfl⟩⟩

/-- A configuration with peers whose networks can be read. -/
structure Settings.Buildable (s : Settings) : Prop where
  peers : s.peers ≠ []
  networks : ∀ e ∈ s.peers, ∃ range, Net.Range.parse e.network = .ok range

/-- A configuration whose thresholds, each taken together with what it falls back to, can be
written. -/
def Settings.Writable (s : Settings) : Prop :=
  ∀ e ∈ s.peers, Debouncer.Writable ⟨Roster.threshold e.upThreshold s.upThreshold,
    Roster.threshold e.downThreshold s.downThreshold⟩

instance (s : Settings) : Decidable s.Writable :=
  inferInstanceAs (Decidable (∀ e ∈ s.peers, Debouncer.Writable _))

/-- A configuration is one of peers with valid networks if these can be named one by one. -/
theorem Settings.Buildable.of_ranges {s : Settings} {ranges : List Net.Range}
    (hpeers : s.peers ≠ [])
    (h : List.Forall₂ (fun e range => Net.Range.parse e.network = .ok range) s.peers ranges) :
    s.Buildable := by
  refine ⟨hpeers, fun e he => ?_⟩
  obtain ⟨i, hi, rfl⟩ := List.mem_iff_getElem.mp he
  exact ⟨_, h.get hi (h.length_eq ▸ hi)⟩

theorem Settings.Buildable.of_singleton {s : Settings} {e : PeerSettings} (range : Net.Range)
    (hpeers : s.peers = [e]) (hrange : Net.Range.parse e.network = .ok range) : s.Buildable := by
  have hranges : List.Forall₂ (fun e range => Net.Range.parse e.network = .ok range) s.peers
      [range] := by
    rw [hpeers]
    exact .cons hrange .nil
  exact .of_ranges (by rw [hpeers]; exact List.cons_ne_nil e []) hranges

/-- **A buildable configuration is built.** -/
theorem Monitor.exists_build {s : Settings} (h : s.Buildable) {address : String}
    (haddress : address ≠ "") (verbose : Bool) (carrier : Carrier) :
    ∃ m, Monitor.build s address verbose (.ok carrier) = .ok m ∧ m.BuiltFrom s verbose := by
  obtain ⟨peers, hall⟩ := Roster.exists_peers (s := s) h.networks
  have hroster : Roster.ofSettings s = .ok ⟨peers⟩ :=
    Roster.ofSettings_eq_ok_iff.mpr ⟨h.peers, hall⟩
  have hboard : Board.ofSettings s verbose = .ok ⟨⟨peers⟩, s.timeout, verbose⟩ :=
    Board.ofSettings_eq_ok_iff.mpr ⟨hroster, rfl, rfl⟩
  have hbuild := Monitor.build_eq_ok_iff.mpr ⟨haddress, _, carrier, hboard, rfl, rfl⟩
  exact ⟨_, hbuild, builtFrom_of_build hbuild⟩

/-- A monitor that was built is the one around the peers that were read. -/
theorem Monitor.eq_around_of_build {s : Settings} {address : String} {verbose : Bool}
    {carrier : Carrier} {m : Monitor} (h : Monitor.build s address verbose (.ok carrier) = .ok m)
    (peers : List Peer) (hpeers : Roster.peersOf s s.peers = .ok peers) :
    m = around s address ⟨⟨peers⟩, s.timeout, verbose⟩ carrier := by
  obtain ⟨-, ⟨⟨peers'⟩, timeout, verbose'⟩, c, hboard, hc, rfl⟩ := Monitor.build_eq_ok_iff.mp h
  obtain ⟨hroster, rfl, rfl⟩ := Board.ofSettings_eq_ok_iff.mp hboard
  have hread := Roster.peersOf_eq_ok_iff.mpr (Roster.ofSettings_eq_ok_iff.mp hroster).2
  obtain rfl : peers' = peers := Except.ok.inj (hread.symm.trans hpeers)
  obtain rfl : carrier = c := Except.ok.inj hc
  rfl

/-- Every entry has its peer, at the same place. -/
theorem Monitor.BuiltFrom.exists_peer {s : Settings} {verbose : Bool} {m : Monitor}
    (h : m.BuiltFrom s verbose) {i : Nat} {e : PeerSettings} (he : s.peers[i]? = some e) :
    ∃ p, Roster.peerOf s e = .ok p ∧ m.board.roster.peers[i]? = some p := by
  obtain ⟨hi, rfl⟩ := List.getElem?_eq_some_iff.mp he
  have hi' : i < m.board.roster.peers.length := by rw [← h.peers.length_eq]; exact hi
  exact ⟨_, h.peers.get hi hi', List.getElem?_eq_getElem hi'⟩

/-- Every peer has its entry, at the same place. -/
theorem Monitor.BuiltFrom.exists_entry {s : Settings} {verbose : Bool} {m : Monitor}
    (h : m.BuiltFrom s verbose) {i : Nat} {p : Peer} (hp : m.board.roster.peers[i]? = some p) :
    ∃ e, s.peers[i]? = some e ∧ Roster.peerOf s e = .ok p := by
  obtain ⟨hi, rfl⟩ := List.getElem?_eq_some_iff.mp hp
  have hi' : i < s.peers.length := by rw [h.peers.length_eq]; exact hi
  exact ⟨_, List.getElem?_eq_getElem hi', h.peers.get hi' hi⟩

/-- Nothing is known of the peers of a monitor that was just built. -/
theorem Monitor.BuiltFrom.fresh {s : Settings} {verbose : Bool} {m : Monitor}
    (h : m.BuiltFrom s verbose) : ∀ p ∈ m.board.roster.peers, p.Fresh := by
  intro p hp
  obtain ⟨i, hi, rfl⟩ := List.getElem_of_mem hp
  exact Roster.fresh_of_peerOf (h.peers.get (by rw [h.peers.length_eq]; exact hi) hi)

/-- The peers have the thresholds of a configuration that can be written. -/
theorem Monitor.BuiltFrom.writable {s : Settings} {verbose : Bool} {m : Monitor}
    (h : m.BuiltFrom s verbose) (hs : s.Writable) :
    ∀ p ∈ m.board.roster.peers, Debouncer.Writable p.debouncer.limits := by
  intro p hp
  obtain ⟨i, hi⟩ := List.getElem?_of_mem hp
  obtain ⟨e, he, hpe⟩ := h.exists_entry hi
  rw [Roster.debouncer_of_peerOf hpe]
  exact hs e (List.mem_of_getElem? he)

end EchoWatch
