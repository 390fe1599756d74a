import EchoWatch.Delivery.Channel
import EchoWatch.Proofs.Number.Rounding
import EchoWatch.Proofs.Watch.Pass
import Mathlib.Data.Rat.Floor
/-!
# Epoch seconds

Slack shows a moment by the whole seconds since the start of 1970. They are cut off a double, which
is the one closest to the exact number of seconds. For more than five hundred years the doubles are
so close to one another that this rounding does not reach the next second, and so what is shown is
the floor of the exact seconds; right after that it is not.

* **`Moment.InSpan`**: a moment of these years, in any zone.
* **`Moment.epochSeconds?_of_inSpan`**: its whole seconds.
* **`Channel.stamp_whole_seconds`**: what the attachment of a notice says.
-/

namespace EchoWatch

namespace Moment

/-! ## The span

The instant decides, and the offset of the zone enters through it alone. -/

/-- Microseconds from the start of 1970 in UTC. -/
def sinceEpoch (m : Moment) : Int :=
  m.utc - epochWall

/-- The exact number of seconds since the start of 1970. -/
def seconds (m : Moment) : Rat :=
  (m.sinceEpoch : Rat) / 1000000

/-- A moment in some zone, from the start of 1970 until `2 ^ 34` seconds after it. -/
structure InSpan (m : Moment) : Prop where
  aware : m.Aware
  nonneg : 0 ≤ m.sinceEpoch
  le : m.sinceEpoch ≤ 2 ^ 34 * 1000000

theorem floor_seconds (m : Moment) : ⌊m.seconds⌋ = m.sinceEpoch / 1000000 :=
  Rat.floor_intCast_div_natCast m.sinceEpoch 1000000

variable {m : Moment}

/-- With a zone the exact quotient is rounded once. -/
theorem timestamp_of_aware (h : m.Aware) : m.timestamp = .ofRatio m.sinceEpoch 1000000 := by
  obtain ⟨zone, hzone⟩ := Option.isSome_iff_exists.mp h
  unfold timestamp
  rw [hzone]
  rfl

/-- With a zone the seconds are those of the double, without the special case for early moments. -/
theorem epochSeconds?_of_aware (h : m.Aware) : m.epochSeconds? = m.timestamp.truncate? := by
  have hfixed : m.zone.isNone = false := by
    rw [Option.isNone_eq_false_iff]
    exact h
  unfold epochSeconds?
  rw [hfixed, Bool.false_and, if_neg (by decide)]

/-! ## Whole seconds

The nearest double may lie on either side of the exact number. That it stays within the same second
is a matter of how close the doubles of the span are (`roundUnits_millionths_div_one`). -/

/-- The double of a moment in the span has as many whole units as there are whole seconds. -/
theorem InSpan.exists_timestamp (h : m.InSpan) :
    ∃ units, m.timestamp = .finite false units ∧
      (units / Binary64.one : Nat) = m.sinceEpoch / 1000000 := by
  obtain ⟨n, hn⟩ := Int.eq_ofNat_of_zero_le h.nonneg
  have hle : n ≤ 2 ^ 34 * 1000000 := by
    have := h.le
    omega
  have hwhole := Binary64.roundUnits_millionths_div_one hle
  -- the double is finite, since its whole units are few
  have hfinite : Binary64.roundUnits (n * Binary64.one) 1000000 < Binary64.overflow := by
    obtain ⟨e, -, hone, hoverflow⟩ := Binary64.exists_one_eq
    calc
      Binary64.roundUnits (n * Binary64.one) 1000000 < 2 ^ 35 * Binary64.one := by
        rw [← Nat.div_lt_iff_lt_mul Binary64.one_pos, hwhole]
        omega
      _ = 2 ^ (35 + e) := by rw [hone, pow_add]
      _ < 2 ^ (1024 + e) := Nat.pow_lt_pow_right (by decide) (by omega)
      _ = Binary64.overflow := hoverflow.symm
  refine ⟨Binary64.roundUnits (n * Binary64.one) 1000000, ?_, ?_⟩
  · rw [timestamp_of_aware h.aware, hn, Binary64.ofRatio, Int.natAbs_natCast,
      decide_eq_false (not_lt.mpr (Int.natCast_nonneg n)), Binary64.nearest, if_pos hfinite]
  · rw [hwhole, hn]
    exact Int.natCast_div n 1000000

/-- **Whole seconds.** Those of the double are those of the moment. -/
theorem epochSeconds?_of_inSpan (h : m.InSpan) : m.epochSeconds? = some ⌊m.seconds⌋ := by
  obtain ⟨units, htimestamp, hwhole⟩ := h.exists_timestamp
  rw [epochSeconds?_of_aware h.aware, htimestamp, floor_seconds, ← hwhole]
  rfl

/-- The double lies in the same second as the moment. -/
theorem InSpan.exists_toRat? (h : m.InSpan) :
    ∃ x, m.timestamp.toRat? = some x ∧ ⌊x⌋ = ⌊m.seconds⌋ := by
  obtain ⟨units, htimestamp, hwhole⟩ := h.exists_timestamp
  refine ⟨(units : Rat) / (Binary64.one : Nat), ?_, ?_⟩
  · rw [htimestamp]
    rfl
  · rw [Rat.floor_natCast_div_natCast, floor_seconds, ← hwhole, Int.natCast_div]

/-- Right after the span the last microsecond of a second counts for the next one. -/
example : (⟨epochWall + (2 ^ 34 * 1000000 + 999999), some .utc⟩ : Moment).epochSeconds? =
    some (2 ^ 34 + 1) := by
  decide +kernel

end Moment

/-! ## Attachments

The stamp of an attachment is read back from the body that is sent, where the channel has put it. -/

/-- The time stamp that a body for Slack has in its one attachment. -/
def Value.stamp? : Value → Option Int
  | .map entries =>
    match Value.lookup? "attachments" entries with
    | some (.list [.map attachment]) =>
      match Value.lookup? "ts" attachment with
      | some (.int ts) => some ts
      | _ => none
    | _ => none
  | _ => none

namespace Channel

/-- The time stamp that a Slack channel with some options gives a notice. -/
def stamp? (options : List (Value × Value)) (n : Notice) : Option Int :=
  (body? ⟨.slack, options⟩ n).bind Value.stamp?

/-- The options of a channel play no part in the stamp. -/
theorem stamp?_eq (options : List (Value × Value)) (n : Notice) :
    stamp? options n = n.timestamp.epochSeconds? := by
  unfold stamp? body? slackBody?
  cases n.timestamp.epochSeconds? <;> rfl

/-- **Stamps are whole seconds.** A notice is about any moment of the span, whose offset is a number
of microseconds like the moment itself. Its stamp is the floor of the exact seconds, although it is
cut off the nearest double, which is thus within the same second. Hence stamps follow the order of
the instants, and an instant has one stamp whatever the offset by which it is told. -/
theorem stamp_whole_seconds (options : List (Value × Value)) {n : Notice}
    (h : n.timestamp.InSpan) :
    stamp? options n = some ⌊n.timestamp.seconds⌋ ∧
    (∃ x, n.timestamp.timestamp.toRat? = some x ∧ ⌊x⌋ = ⌊n.timestamp.seconds⌋) ∧
    ∀ (options' : List (Value × Value)) (n' : Notice), n'.timestamp.InSpan →
      (n.timestamp.sinceEpoch ≤ n'.timestamp.sinceEpoch →
        ∃ t t', stamp? options n = some t ∧ stamp? options' n' = some t' ∧ t ≤ t') ∧
      (n.timestamp.sinceEpoch = n'.timestamp.sinceEpoch →
        stamp? options n = stamp? options' n') := by
  have hstamp : ∀ (options : List (Value × Value)) (n : Notice), n.timestamp.InSpan →
      stamp? options n = some ⌊n.timestamp.seconds⌋ := fun options n h =>
    (stamp?_eq options n).trans (Moment.epochSeconds?_of_inSpan h)
  refine ⟨hstamp options n h, h.exists_toRat?, fun options' n' h' => ⟨fun hle => ?_, fun heq => ?_⟩⟩
  · refine ⟨_, _, hstamp options n h, hstamp options' n' h', ?_⟩
    rw [Moment.floor_seconds, Moment.floor_seconds]
    exact Int.ediv_le_ediv (by decide) hle
  · rw [hstamp options n h, hstamp options' n' h', Moment.floor_seconds, Moment.floor_seconds, heq]

/-- The last microsecond of a second late in the span, seen from two zones. The clocks of one of
them are three hours and a half behind UTC, and one microsecond more. -/
theorem stamp_of_last_microsecond :
    let m : Moment := ⟨Moment.epochWall + 15999999999999999, some .utc⟩
    let west : Moment := ⟨Moment.epochWall + 15999987399999998, some (.fixed (-12600000001))⟩
    m.InSpan ∧ west.InSpan ∧ m.sinceEpoch = west.sinceEpoch ∧
      stamp? [] ⟨"Peer A is Up", "", m, none, "Up", "Down"⟩ = some 15999999999 ∧
      stamp? [] ⟨"Peer A is Up", "", west, none, "Up", "Down"⟩ = some 15999999999 := by
  intro m west
  have hm : m.InSpan := ⟨rfl, by decide, by decide⟩
  have hwest : west.InSpan := ⟨rfl, by decide, by decide⟩
  have hfloor : ⌊m.seconds⌋ = 15999999999 := by
    rw [Moment.floor_seconds]
    decide
  obtain ⟨hstamp, -, hother⟩ :=
    @stamp_whole_seconds [] ⟨"Peer A is Up", "", m, none, "Up", "Down"⟩ hm
  have hsame := (hother [] ⟨"Peer A is Up", "", west, none, "Up", "Down"⟩ hwest).2 (by decide)
  have hvalue := hstamp.trans (congrArg some hfloor)
  exact ⟨hm, hwest, by decide, hvalue, hsame.symm.trans hvalue⟩

end Channel
end EchoWatch
