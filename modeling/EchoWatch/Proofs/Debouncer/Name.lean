import EchoWatch.Proofs.Debouncer.Window
import EchoWatch.Proofs.Numeral
/-!
# State names tell states apart

Events and status lines show a state by its name, and a verbose board compares names to find out
whether a state has changed. Under fixed thresholds the words of a name stand for one state only
(`wording_eq_iff`), so that nothing is lost by that: the four kinds differ in their words, and
counts of one kind in their numerals. The words alone tell the kind (`wording_eq_up_iff` and its
like).

Whether there is a name at all is up to the thresholds: if both can be written, so can the name of
every state that is ever reached (`legible_observeAll`), because a count stays below its quorum.
-/

namespace EchoWatch.Debouncer

/-- The count of a phase, character by character. -/
theorem toList_tally (count threshold : Int) :
    (tally count threshold).toList =
      '(' :: (Numeral.ofInt count ++ (" of ".toList ++ Numeral.ofInt threshold ++ [')'])) := by
  simp [tally, toString]

/-- The threshold is the same on both sides, so the texts differ in the count or not at all. -/
theorem tally_left_injective {m n threshold : Int} (h : tally m threshold = tally n threshold) :
    m = n := by
  have hchars := congrArg String.toList h
  rw [toList_tally, toList_tally] at hchars
  have hcount := List.append_cancel_right (List.tail_eq_of_cons_eq hchars)
  exact Numeral.ofInt_injective hcount

/-- With the same thresholds, phases with the same words are the same. -/
theorem phase_eq_of_wording_eq {p q : Phase} {limits : Thresholds}
    (h : (Debouncer.mk p limits).wording = (Debouncer.mk q limits).wording) : p = q := by
  cases p <;> cases q <;> simp only [wording] at h
  case up.up | down.down => rfl
  case maybeUp.maybeUp m n | maybeDown.maybeDown m n =>
    rw [tally_left_injective ((String.append_right_inj _).mp h)]
  -- two different kinds: the words differ, whatever the counts are
  all_goals
    have hchars := congrArg String.toList h
    simp [String.toList_append] at hchars

/-- **Words tell states apart.** -/
theorem wording_eq_iff {d e : Debouncer} (h : d.limits = e.limits) :
    d.wording = e.wording ↔ d = e := by
  obtain ⟨p, limits⟩ := d
  obtain ⟨q, limits'⟩ := e
  obtain rfl : limits = limits' := h
  constructor
  · intro hwording
    rw [phase_eq_of_wording_eq hwording]
  · rintro ⟨⟩
    rfl

/-! ## Kinds by their words -/

theorem wording_eq_up_iff {d : Debouncer} : d.wording = "Up" ↔ d.phase = .up := by
  obtain ⟨p, limits⟩ := d
  cases p <;> simp [wording, ← String.toList_inj, String.toList_append]

theorem wording_eq_down_iff {d : Debouncer} : d.wording = "Down" ↔ d.phase = .down := by
  obtain ⟨p, limits⟩ := d
  cases p <;> simp [wording, ← String.toList_inj, String.toList_append]

/-- A phase that counts sightings is known by its first words. -/
theorem maybeUp_prefix_wording_iff {d : Debouncer} :
    "Maybe Up".toList <+: d.wording.toList ↔ ∃ n, d.phase = .maybeUp n := by
  obtain ⟨p, limits⟩ := d
  cases p <;> simp [wording, String.toList_append]

theorem maybeDown_prefix_wording_iff {d : Debouncer} :
    "Maybe Down".toList <+: d.wording.toList ↔ ∃ n, d.phase = .maybeDown n := by
  obtain ⟨p, limits⟩ := d
  cases p <;> simp [wording, String.toList_append]

theorem wording_ne_empty (d : Debouncer) : d.wording ≠ "" := by
  obtain ⟨p, limits⟩ := d
  cases p <;> simp [wording, ← String.toList_inj, String.toList_append]

/-! ## States that have names -/

/-- A state has a name just when its numbers can be written, and then the name is its words. -/
theorem name_eq_ok_iff {d : Debouncer} {text : String} :
    d.name = .ok text ↔ d.legible = true ∧ d.wording = text := by
  unfold name
  cases d.legible <;> simp

theorem name_of_legible {d : Debouncer} (h : d.legible = true) : d.name = .ok d.wording :=
  if_pos h

/-- A verdict shows no number. -/
theorem legible_start (limits : Thresholds) : (start limits).legible = true :=
  rfl

/-- A number between one and a bound that is not below two is written as shortly as the bound. -/
theorem isShort_of_lt_max {count threshold : Int} (hpos : 1 ≤ count)
    (hlt : count < max 2 threshold) (h : Numeral.isShort threshold = true) :
    Numeral.isShort count = true := by
  have htwo : 1 < Nat.pow 10 Numeral.maxDigits := by
    rw [Nat.pow_eq]
    exact Nat.one_lt_pow (by decide) (by decide)
  unfold Numeral.isShort at h ⊢
  rw [decide_eq_true_eq] at h ⊢
  omega

/-- Thresholds that can be written. -/
def Writable (limits : Thresholds) : Prop :=
  Numeral.isShort limits.up = true ∧ Numeral.isShort limits.down = true

instance (limits : Thresholds) : Decidable (Writable limits) :=
  inferInstanceAs (Decidable (_ ∧ _))

/-- **Every state has a name** where the thresholds can be written: a count lies below its
quorum, and it has no more digits than the threshold. -/
theorem legible_observeAll {limits : Thresholds} (h : Writable limits) (seen : List Bool) :
    ((start limits).observeAll seen).legible = true := by
  have hprogress := progress_observeAll limits seen
  unfold legible
  rw [Option.all_eq_true]
  rintro ⟨count, threshold⟩ hq
  obtain ⟨hpos, hlt⟩ := hprogress _ hq
  -- the threshold is one of the two, whichever way is counted
  have hthreshold : Numeral.isShort threshold = true := by
    unfold progress at hq
    rw [observeAll_limits] at hq
    cases hphase : ((start limits).observeAll seen).phase with
    | up | down => rw [hphase] at hq; cases hq
    | maybeUp n =>
      rw [hphase] at hq
      cases hq
      exact h.1
    | maybeDown n =>
      rw [hphase] at hq
      cases hq
      exact h.2
  rw [Bool.and_eq_true]
  exact ⟨isShort_of_lt_max hpos hlt hthreshold, hthreshold⟩

end EchoWatch.Debouncer
