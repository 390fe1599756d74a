import EchoWatch.Peer.Roster
import EchoWatch.Proofs.Net.Interval
import Mathlib.Data.List.Forall2
import Mathlib.Order.Bounds.Basic
/-!
# Routing

A packet belongs to the first peer whose range holds its source. `Roster.route` finds that peer by
testing bits from the front; here its answer is described by the texts of the configuration and by
intervals of numbers.

* **`Qualifies`**: an address lies in the interval that is written in a peer's network.
* **`route_eq_peer_iff`**: the route leads to the least position that holds the address.
* **`route_first_qualifying`**: the same from the texts, with the two ways to find no peer.

A route looks at the ranges of a roster and at nothing else (`route_congr`), so that packets and
checks never change it.
-/

namespace EchoWatch.Roster

/-! ## The first peer that holds an address -/

/-- The place that a search finds is the least one with what it looks for. -/
theorem findIdx?_eq_some_iff_isLeast {α : Type} {p : α → Bool} {l : List α} {i : Nat} :
    l.findIdx? p = some i ↔ IsLeast {i | ∃ a, l[i]? = some a ∧ p a = true} i := by
  rw [List.findIdx?_eq_some_iff_getElem]
  constructor
  · rintro ⟨hi, hin, hbefore⟩
    refine ⟨⟨l[i], List.getElem?_eq_getElem hi, hin⟩, ?_⟩
    rintro j ⟨a, ha, hj⟩
    by_contra hlt
    obtain ⟨hlen, rfl⟩ := List.getElem?_eq_some_iff.mp ha
    exact hbefore j (by omega) hj
  · rintro ⟨⟨a, ha, hin⟩, hleast⟩
    obtain ⟨hi, rfl⟩ := List.getElem?_eq_some_iff.mp ha
    refine ⟨hi, hin, ?_⟩
    intro j hji hj
    have hle : i ≤ j := hleast ⟨l[j], List.getElem?_eq_getElem (by omega), hj⟩
    omega

/-- The search ends at the least place that holds the address. -/
theorem indexOf?_eq_some_iff {r : Roster} {a : Net.Address} {i : Nat} :
    r.indexOf? a = some i ↔
      IsLeast {i | ∃ p, r.peers[i]? = some p ∧ p.range.contains a = true} i :=
  findIdx?_eq_some_iff_isLeast

theorem indexOf?_eq_none_iff {r : Roster} {a : Net.Address} :
    r.indexOf? a = none ↔
      ∀ (i : Nat) (p : Peer), r.peers[i]? = some p → ¬ p.range.contains a = true := by
  unfold indexOf?
  rw [List.findIdx?_eq_none_iff]
  constructor
  · intro hall i p hp
    rw [Bool.not_eq_true]
    exact hall p (List.mem_of_getElem? hp)
  · intro hall p hp
    obtain ⟨i, hi⟩ := List.getElem?_of_mem hp
    exact Bool.not_eq_true _ ▸ hall i p hi

/-! ## Routes

There are three answers: the text is no address, or nobody holds it, or somebody does. -/

/-- A route to a peer. -/
theorem route_eq_peer_iff {r : Roster} {address : String} {i : Nat} :
    r.route address = .peer i ↔
      ∃ a, Net.Address.read? address.toList = some a ∧ r.indexOf? a = some i := by
  unfold route
  cases hread : Net.Address.read? address.toList with
  | none => simp
  | some a => cases hindex : r.indexOf? a <;> simp [hindex]

/-- A route from a text that is no address. -/
theorem route_eq_unreadable_iff {r : Roster} {address : String} :
    r.route address = .unreadable ↔ Net.Address.read? address.toList = none := by
  unfold route
  cases hread : Net.Address.read? address.toList with
  | none => simp
  | some a => cases hindex : r.indexOf? a <;> simp [hindex]

/-- A route from an address that nobody holds. -/
theorem route_eq_unmatched_iff {r : Roster} {address : String} :
    r.route address = .unmatched ↔
      ∃ a, Net.Address.read? address.toList = some a ∧ r.indexOf? a = none := by
  unfold route
  cases hread : Net.Address.read? address.toList with
  | none => simp
  | some a => cases hindex : r.indexOf? a <;> simp [hindex]

/-- The ranges of a roster are all that a route looks at. -/
theorem route_congr {r s : Roster} (h : r.peers.map Peer.range = s.peers.map Peer.range)
    (address : String) : r.route address = s.route address := by
  have hindex : ∀ a, r.indexOf? a = s.indexOf? a := by
    intro a
    have hmap : ∀ t : Roster,
        t.indexOf? a = (t.peers.map Peer.range).findIdx? fun range => range.contains a := by
      intro t
      rw [List.findIdx?_map]
      rfl
    rw [hmap r, hmap s, h]
  simp only [route, hindex]

/-! ## From the texts

A roster knows ranges, and a configuration texts. What a text says is an interval, and the peer that
was made from it holds the addresses of that interval. -/

/-- Whether a packet from the given source could be peer `i`'s: the source is an address, and it
lies in the interval that is written in the peer's network. -/
def Qualifies (networks : List String) (address : String) (i : Nat) : Prop :=
  ∃ text a written length, networks[i]? = some text ∧
    Net.Address.read? address.toList = some a ∧
    Net.Range.Written text written length ∧ Net.Range.Covers written length a

variable {peers : List Peer} {networks : List String}

/-- A peer holds an address just when the interval written in its network does. -/
theorem qualifies_iff
    (hparse : List.Forall₂ (fun (p : Peer) text => Net.Range.parse text = .ok p.range) peers
      networks)
    {address : String} {a : Net.Address} (ha : Net.Address.read? address.toList = some a)
    {i : Nat} :
    Qualifies networks address i ↔ ∃ p, peers[i]? = some p ∧ p.range.contains a = true := by
  have hlen := hparse.length_eq
  constructor
  · rintro ⟨text, a', written, length, htext, ha', hwritten, hcovers⟩
    -- the address is read from the same text, and the range from the text of the same place
    obtain rfl : a = a' := Option.some.inj (ha.symm.trans ha')
    obtain ⟨hi, rfl⟩ := List.getElem?_eq_some_iff.mp htext
    have hp := hparse.get (by omega) hi
    exact ⟨peers[i], List.getElem?_eq_getElem (by omega),
      (Net.Range.contains_iff_of_parse hp).mpr ⟨written, length, hwritten, hcovers⟩⟩
  · rintro ⟨p, hpeer, hin⟩
    obtain ⟨hi, rfl⟩ := List.getElem?_eq_some_iff.mp hpeer
    have hp := hparse.get hi (by omega)
    obtain ⟨written, length, hwritten, hcovers⟩ := (Net.Range.contains_iff_of_parse hp).mp hin
    exact ⟨networks[i], a, written, length, List.getElem?_eq_getElem (by omega), ha, hwritten,
      hcovers⟩

/-- **First match.** A roster of peers whose networks can be read routes every text: to the first
peer whose written interval holds it, and to none just when the text is no address or lies in none
of the intervals. -/
theorem route_first_qualifying (hne : peers ≠ [])
    (hparse : List.Forall₂ (fun (p : Peer) text => Net.Range.parse text = .ok p.range) peers
      networks)
    (address : String) :
    ∃ r, ofPeers peers = .ok r ∧
      (∀ i, r.route address = .peer i ↔ IsLeast {i | Qualifies networks address i} i) ∧
      (r.route address = .unreadable ∨ r.route address = .unmatched ↔
        Net.Address.read? address.toList = none ∨ ∀ i, ¬ Qualifies networks address i) := by
  refine ⟨⟨peers⟩, ?_, ?_, ?_⟩
  · unfold ofPeers
    rw [if_neg (by simpa using hne)]
  · intro i
    rw [route_eq_peer_iff]
    cases hread : Net.Address.read? address.toList with
    | none =>
      constructor
      · rintro ⟨a, ha, -⟩
        cases ha
      · rintro ⟨⟨text, a, written, length, -, ha, -⟩, -⟩
        rw [hread] at ha
        cases ha
    | some a =>
      -- both sets have the same least element, because they are the same set
      have hset : {i | Qualifies networks address i} =
          {i | ∃ p, peers[i]? = some p ∧ p.range.contains a = true} :=
        Set.ext fun i => qualifies_iff hparse hread
      rw [hset, ← indexOf?_eq_some_iff (r := ⟨peers⟩)]
      simp
  · rw [route_eq_unreadable_iff, route_eq_unmatched_iff]
    cases hread : Net.Address.read? address.toList with
    | none => simp
    | some a =>
      have hnone : (∀ i, ¬ Qualifies networks address i) ↔
          Roster.indexOf? ⟨peers⟩ a = none := by
        rw [indexOf?_eq_none_iff]
        constructor
        · intro hno i p hp hin
          exact hno i ((qualifies_iff hparse hread).mpr ⟨p, hp, hin⟩)
        · intro hno i hq
          obtain ⟨p, hp, hin⟩ := (qualifies_iff hparse hread).mp hq
          exact hno i p hp hin
      simp [hnone]

/-- The first address after a narrow range goes to the wide range that stands behind it, although
host bits are set in the narrow one. -/
theorem route_past_narrow_range :
    let narrow : Peer :=
      ⟨"A", .around (.ofQuad 167772237) 24 (by decide), none, .start ⟨1, 1⟩, none, .free⟩
    let wide : Peer :=
      ⟨"B", .around (.ofQuad 167772160) 16 (by decide), none, .start ⟨1, 1⟩, none, .free⟩
    Net.Range.parse "10.0.0.77/24" = .ok narrow.range ∧
      Net.Range.parse "10.0.0.0/16" = .ok wide.range ∧
      ∃ r, ofPeers [narrow, wide] = .ok r ∧ r.route "10.0.1.0" = .peer 1 ∧
        IsLeast {i | Qualifies ["10.0.0.77/24", "10.0.0.0/16"] "10.0.1.0" i} 1 := by
  intro narrow wide
  have hnarrow : Net.Range.parse "10.0.0.77/24" = .ok narrow.range := by decide
  have hwide : Net.Range.parse "10.0.0.0/16" = .ok wide.range := by decide
  obtain ⟨r, hr, hroute, -⟩ := route_first_qualifying (List.cons_ne_nil narrow [wide])
    (.cons hnarrow (.cons hwide .nil)) "10.0.1.0"
  have hone : r.route "10.0.1.0" = .peer 1 := by
    obtain rfl : Roster.mk [narrow, wide] = r := Except.ok.inj hr
    decide
  exact ⟨hnarrow, hwide, r, hr, hone, (hroute 1).mp hone⟩

end EchoWatch.Roster
