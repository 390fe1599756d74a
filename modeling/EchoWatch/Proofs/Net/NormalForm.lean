import EchoWatch.Peer.Roster
import EchoWatch.Proofs.Net.Groups
import EchoWatch.Proofs.Net.Interval
import Mathlib.Data.Nat.Bitwise
/-!
# Normal forms of networks

One range has many texts: host bits, masks, blanks and zeros that may be left out make no
difference. The text that is written for a range is its normal form. It is read as the same range
again, and so it may stand in a configuration for every other text of that range.

* **`Address.read?_write`**: an address that was read is read from its own text again.
* **`Range.parse_text`**: the same for ranges.
* **`Roster.stable_normal_form`**: what is read of a network, and what normal forms change in a
  configuration: nothing.
-/

namespace EchoWatch
namespace Net

/-! ## Addresses -/

namespace Address

/-- An address as it can be read: a quad has no zone, and the text of a zone can be told from what
stands around it. -/
structure Legible (a : Address) : Prop where
  quad : a.family = .v4 → a.zone = none
  zone : ∀ z, a.zone = some z → z ≠ [] ∧ '%' ∉ z ∧ '/' ∉ z

/-- Without a zone there is nothing to ask for. -/
theorem Legible.of_zone_none {a : Address} (h : a.zone = none) : a.Legible where
  quad := fun _ => h
  zone := by
    intro z hz
    rw [h] at hz
    cases hz

/-- A zone that was read stood behind the first per cent sign, and was neither empty nor had
another. -/
theorem legible_of_readGroups? {cs : List Char} {a : Address} (hslash : '/' ∉ cs)
    (h : readGroups? cs = some a) : a.Legible := by
  unfold readGroups? at h
  split at h
  · obtain ⟨n, -, rfl⟩ := Option.map_eq_some_iff.mp h
    exact .of_zone_none rfl
  · next body zone hcut =>
    -- what follows the per cent sign is the zone, slash and all, but there is no slash
    obtain ⟨rfl, -⟩ := (Text.cut?_eq_some_iff '%').mp hcut
    split at h
    · cases h
    · next hzone =>
      obtain ⟨n, -, rfl⟩ := Option.map_eq_some_iff.mp h
      rw [not_or] at hzone
      refine ⟨?_, ?_⟩
      · intro hfamily
        cases hfamily
      · intro z hz
        obtain rfl : zone = z := Option.some.inj hz
        exact ⟨hzone.1, hzone.2, fun hz => hslash (by simp [hz])⟩

/-- **Every address that was read can be read.** -/
theorem legible_of_read? {cs : List Char} {a : Address} (h : read? cs = some a) : a.Legible := by
  unfold read? at h
  split at h
  · cases h
  · next hslash =>
    split at h
    · obtain rfl := Option.some.inj h
      exact .of_zone_none rfl
    · exact legible_of_readGroups? hslash h

/-- A text with a colon in it is no quad. -/
theorem readQuad?_eq_none {cs : List Char} (h : ':' ∈ cs) : Quad.read? cs = none := by
  cases hquad : Quad.read? cs with
  | none => rfl
  | some n => exact absurd h (Quad.not_mem_of_read? hquad (by decide) (by decide))

/-- Groups are read from the text of their value. -/
theorem readGroups?_write (n : Fin (Nat.pow 2 128)) :
    readGroups? (Groups.write n) = some (ofGroups n none) := by
  -- the text holds no per cent sign, so it is cut at none
  have hpercent : '%' ∉ Groups.write n := Groups.not_mem_write (by decide) (by decide) n
  unfold readGroups?
  rw [Text.cut?_of_not_mem '%' hpercent, Groups.readValue?_write n.isLt]
  rfl

/-- Groups are read with a zone behind them, because no per cent sign is in their text. -/
theorem readGroups?_write_zone (n : Fin (Nat.pow 2 128)) {z : List Char} (hne : z ≠ [])
    (hz : '%' ∉ z) :
    readGroups? (Groups.write n ++ '%' :: z) = some (ofGroups n (some z)) := by
  have hpercent : '%' ∉ Groups.write n := Groups.not_mem_write (by decide) (by decide) n
  unfold readGroups?
  rw [(Text.cut?_eq_some_iff '%').mpr ⟨rfl, hpercent⟩]
  dsimp only
  rw [if_neg (not_or.mpr ⟨hne, hz⟩), Groups.readValue?_write n.isLt]
  rfl

/-- An address is read from its own text, with its zone. -/
theorem read?_write {a : Address} (h : a.Legible) : read? a.write = some a := by
  obtain ⟨family, value, zone, hvalue⟩ := a
  cases family with
  | v4 =>
    obtain rfl : zone = none := h.quad rfl
    have hquad := Quad.read?_write hvalue
    show read? (Quad.write value) = _
    unfold read?
    rw [if_neg (Quad.not_mem_of_read? hquad (by decide) (by decide)), hquad]
    rfl
  | v6 =>
    have hslash : '/' ∉ Groups.write value := Groups.not_mem_write (by decide) (by decide) value
    have hcolon := Groups.colon_mem_write value
    cases zone with
    | none =>
      show read? (Groups.write value) = _
      unfold read?
      rw [if_neg hslash, readQuad?_eq_none hcolon]
      exact readGroups?_write ⟨value, hvalue⟩
    | some z =>
      -- the zone must not bring in what the text is cut at
      obtain ⟨hne, hpercent, hz⟩ := h.zone z rfl
      have hslash' : '/' ∉ Groups.write value ++ '%' :: z := by simp [hslash, hz]
      show read? (Groups.write value ++ '%' :: z) = _
      unfold read?
      rw [if_neg hslash', readQuad?_eq_none (List.mem_append_left _ hcolon)]
      exact readGroups?_write_zone ⟨value, hvalue⟩ hne hpercent

/-- The text of an address begins with a digit or a colon. -/
theorem head?_write (a : Address) : ∃ c, a.write.head? = some c ∧ Text.isBlank c = false := by
  obtain ⟨family, value, zone, hvalue⟩ := a
  cases family with
  | v4 => exact Quad.head?_write value
  | v6 =>
    obtain ⟨c, hfirst, hc⟩ := Groups.head?_write value
    refine ⟨c, ?_, hc⟩
    cases zone with
    | none => exact hfirst
    | some z =>
      show (Groups.write value ++ '%' :: z).head? = some c
      rw [List.head?_append, hfirst]
      rfl

end Address

/-! ## Ranges -/

namespace Range

/-- A range is the one around its own base. -/
theorem around_base (r : Range) : around r.base r.length r.length_le = r :=
  dif_pos r.aligned

/-- Clearing bits drops the zone, and does not spoil the rest. -/
theorem legible_around {a : Address} {length : Nat} {h : length ≤ a.family.width}
    (ha : a.Legible) : (around a length h).base.Legible := by
  unfold around
  dsimp only
  split
  · exact ha
  · exact .of_zone_none rfl

/-- The base of a range that was read can be read. -/
theorem legible_of_parse {text : String} {r : Range} (h : parse text = .ok r) :
    r.base.Legible := by
  obtain ⟨a, length, hle, ⟨body, tail, -, ha, -⟩, rfl⟩ := parse_eq_ok_iff.mp h
  exact legible_around (Address.legible_of_read? ha)

/-- A length is read from its numeral. -/
theorem readLength?_ofNat {family : Family} {n : Nat} (h : n ≤ family.width) :
    readLength? family (Numeral.ofNat n) = some n := by
  -- lengths have at most three digits, which is all that is read
  have hsmall : n < 1000 := by
    cases family <;> simp only [Family.width] at h <;> omega
  have hlength := Numeral.length_ofNat_le (k := 3) (by decide) hsmall
  have hvalue := Numeral.ofDigitValues_ofNat n
  have hdecimal : decimalLength? family.width (Numeral.ofNat n) = some n := by
    unfold decimalLength?
    rw [if_pos ⟨Numeral.ofNat_ne_nil n, Numeral.all_isAsciiDigit_ofNat n,
      hlength.trans (by decide)⟩]
    simp only [hvalue, h, if_true]
  unfold readLength?
  rw [hdecimal]

theorem read?_write {r : Range} (h : r.base.Legible) : read? r.write = some r :=
  read?_eq_some_iff.mpr ⟨r.base.write, Numeral.ofNat r.length, r.base, r.length, r.length_le, rfl,
    Address.read?_write h, readLength?_ofNat r.length_le, (around_base r).symm⟩

/-- No blank stands at either end of the text of a range. -/
theorem trim_write (r : Range) : Text.trim r.write = r.write := by
  apply Text.trim_eq_self
  · intro c hc
    obtain ⟨d, hfirst, hd⟩ := r.base.head?_write
    rw [write, List.head?_append, hfirst] at hc
    obtain rfl : d = c := Option.some.inj hc
    exact hd
  · intro c hc
    have hne : (Numeral.ofNat r.length).reverse ≠ [] := by
      simpa using Numeral.ofNat_ne_nil r.length
    rw [write, List.reverse_append, List.reverse_cons, List.append_assoc, List.head?_append,
      Option.or_of_isSome (by simpa using hne)] at hc
    exact Numeral.isBlank_of_mem_ofNat (List.mem_reverse.mp (List.mem_of_mem_head? hc))

/-- **The text of a range is read as the same range.** -/
theorem parse_text {r : Range} (h : r.base.Legible) : parse r.text = .ok r := by
  have hslash : '/' ∈ r.write := by simp [write]
  unfold parse text
  rw [String.toList_ofList, if_neg (not_not_intro hslash), trim_write, read?_write h]

/-- The text that is written for the range of a text. A text of no range is left as it is. -/
def normalForm (text : String) : String :=
  match parse text with
  | .ok r => r.text
  | .error _ => text

theorem normalForm_of_ok {text : String} {r : Range} (h : parse text = .ok r) :
    normalForm text = r.text := by
  rw [normalForm, h]

theorem normalForm_of_error {text : String} {reason : ParseError} (h : parse text = .error reason) :
    normalForm text = text := by
  rw [normalForm, h]

/-- What lies below the length of a range is clear in its base. -/
theorem testBit_base (r : Range) {i : Nat} (h : i < freeBits r.base r.length) :
    r.base.value.testBit i = false := by
  -- the base is a multiple of the size of its block
  obtain ⟨q, hq⟩ := Nat.dvd_of_mod_eq_zero r.aligned
  rw [hq, Nat.mul_comm]
  show (q * 2 ^ freeBits r.base r.length).testBit i = false
  rw [Nat.testBit_mul_two_pow, decide_eq_false (Nat.not_le.mpr h), Bool.false_and]

end Range
end Net

/-! ## Configurations -/

/-- A peer takes over the range and only adds its own name to what is wrong. -/
theorem Peer.parseRange_eq_ok_iff {peer text : String} {r : Net.Range} :
    parseRange peer text = .ok r ↔ Net.Range.parse text = .ok r := by
  unfold parseRange
  cases Net.Range.parse text <;> simp [Except.mapError]

/-- An entry with the normal form of its network. -/
def PeerSettings.normalized (e : PeerSettings) : PeerSettings :=
  { e with network := Net.Range.normalForm e.network }

/-- A configuration with the normal forms of all networks. -/
def Settings.normalized (s : Settings) : Settings :=
  { s with peers := s.peers.map PeerSettings.normalized }

namespace Roster

/-- An entry makes the same peer in normal form. Where its network cannot be read, it is as it was
and so is the fault. -/
theorem peerOf_normalized (s : Settings) (e : PeerSettings) :
    peerOf s.normalized e.normalized = peerOf s e := by
  have hrange : Peer.parseRange e.name (Net.Range.normalForm e.network) =
      Peer.parseRange e.name e.network := by
    unfold Peer.parseRange
    cases hparse : Net.Range.parse e.network with
    | ok r =>
      rw [Net.Range.normalForm_of_ok hparse,
        Net.Range.parse_text (Net.Range.legible_of_parse hparse)]
      rfl
    | error reason => rw [Net.Range.normalForm_of_error hparse, hparse]
  unfold peerOf Peer.new
  rw [show e.normalized.network = Net.Range.normalForm e.network from rfl,
    show e.normalized.name = e.name from rfl, hrange]
  rfl

/-- Induction on the entries: each one makes the same peer or fails the same way. -/
theorem peersOf_normalized (s : Settings) (entries : List PeerSettings) :
    peersOf s.normalized (entries.map PeerSettings.normalized) = peersOf s entries := by
  induction entries with
  | nil => rfl
  | cons e entries ih => rw [List.map_cons, peersOf, peersOf, peerOf_normalized, ih]

/-- A configuration makes the same roster in normal form. -/
theorem ofSettings_normalized (s : Settings) : ofSettings s.normalized = ofSettings s := by
  unfold ofSettings
  rw [show s.normalized.peers = s.peers.map PeerSettings.normalized from rfl,
    peersOf_normalized, List.isEmpty_map]

/-- **Normal forms are stable.** A network that is read consists of the written address with the
bits beyond its length cleared, and its text is read as the same network. So a configuration with
the normal forms of its networks gives the same roster, which routes every packet the same way. -/
theorem stable_normal_form :
    (∀ (peer text : String) (r : Net.Range), Peer.parseRange peer text = .ok r →
      (∃ written, Net.Range.Written text written r.length ∧ r.base.family = written.family ∧
        r.base.value =
          Net.Range.cleared written.value (Net.Range.freeBits written r.length)) ∧
      r.length ≤ r.base.family.width ∧
      (∀ i < Net.Range.freeBits r.base r.length, r.base.value.testBit i = false) ∧
      Peer.parseRange peer r.text = .ok r) ∧
    ∀ s : Settings, ofSettings s.normalized = ofSettings s ∧
      ∀ address, (ofSettings s.normalized).map (·.route address) =
        (ofSettings s).map (·.route address) := by
  constructor
  · intro peer text r h
    have hparse := Peer.parseRange_eq_ok_iff.mp h
    refine ⟨?_, r.length_le, fun i hi => r.testBit_base hi, ?_⟩
    · -- what was written, and what is kept of it
      obtain ⟨a, length, hle, hwritten, rfl⟩ := Net.Range.parse_eq_ok_iff.mp hparse
      refine ⟨a, ?_, Net.Range.around_family, ?_⟩
      · rwa [Net.Range.around_length]
      · rw [Net.Range.around_length, Net.Range.around_value]
    · rw [Peer.parseRange_eq_ok_iff]
      exact Net.Range.parse_text (Net.Range.legible_of_parse hparse)
  · intro s
    exact ⟨ofSettings_normalized s, fun address => by rw [ofSettings_normalized]⟩

/-- The host bits go and the zone with them, blanks and zeros are left out. -/
theorem stable_normal_form_of_host_bits :
    ∃ r, Peer.parseRange "A" " 2001:DB8:0:0:1::7%en0/126 " = .ok r ∧
      r.text = "2001:db8::1:0:0:4/126" ∧ Peer.parseRange "A" r.text = .ok r := by
  have hread : (Peer.parseRange "A" " 2001:DB8:0:0:1::7%en0/126 ").toOption.map (·.text) =
      some "2001:db8::1:0:0:4/126" := by decide +kernel
  cases h : Peer.parseRange "A" " 2001:DB8:0:0:1::7%en0/126 " with
  | ok r =>
    rw [h] at hread
    exact ⟨r, rfl, Option.some.inj hread, (stable_normal_form.1 _ _ _ h).2.2.2⟩
  | error fault =>
    rw [h] at hread
    cases hread

end Roster
end EchoWatch
