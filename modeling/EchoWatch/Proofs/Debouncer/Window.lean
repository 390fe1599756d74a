import EchoWatch.Debouncer
import Mathlib.Data.List.DropRight
import Mathlib.Data.List.Infix
/-!
# The debouncer as a law on windows of its history

`Debouncer.observe` works from one observation to the next. This module describes the state that it
reaches by windows of the whole history instead, without a machine.

* **`ConfirmedUp`**: somewhere in the history the peer was seen often enough in a row, and since
  then it was never missed often enough in a row.
* **`Reflects`**: what each phase says about the history behind it. One step keeps it
  (`Reflects.observe`), so every run from the start does (`reflects_observeAll`).
* **`observeAll_start_eq`**: the closed form. The verdict is `ConfirmedUp`, and a count is the
  length of the run of contrary observations at the end.

Thresholds of zero and one act like two because the first contrary observation only opens a count;
`quorum` is the number that counts.
-/

namespace EchoWatch.Debouncer

/-! ## Runs at the end of a history -/

/-- How many of the last observations in a row had the given value. -/
def runLength (b : Bool) (seen : List Bool) : Nat :=
  (seen.rtakeWhile (· == b)).length

@[simp] theorem runLength_nil (b : Bool) : runLength b [] = 0 := by
  simp [runLength]

/-- One observation more makes a run longer, or ends it. -/
@[simp] theorem runLength_snoc (b c : Bool) (seen : List Bool) :
    runLength b (seen ++ [c]) = if c = b then runLength b seen + 1 else 0 := by
  unfold runLength
  rw [List.rtakeWhile_concat]
  by_cases h : c = b <;> simp [h]

/-- The run at the end is at least `n` long just when the history ends with `n` such observations.
Induction from the end, where both sides lose one observation. -/
theorem le_runLength_iff {b : Bool} {seen : List Bool} {n : Nat} :
    n ≤ runLength b seen ↔ List.replicate n b <:+ seen := by
  induction seen using List.reverseRecOn generalizing n with
  | nil => simp [List.suffix_nil]
  | append_singleton seen c ih =>
    cases n with
    | zero => simp
    | succ n =>
      rw [runLength_snoc, List.replicate_succ', List.suffix_concat_iff]
      -- the run goes on, or the last observation has ended it
      by_cases h : c = b
      · subst h
        simp [ih]
      · have h' : b ≠ c := fun e => h e.symm
        simp [h, h']

/-- The last observation is the one whose run is not empty. -/
theorem getLast?_eq_some_iff {b : Bool} {seen : List Bool} :
    seen.getLast? = some b ↔ 0 < runLength b seen := by
  induction seen using List.reverseRecOn with
  | nil => simp
  | append_singleton seen c ih => by_cases h : c = b <;> simp [h]

/-- Two runs of different values do not end in the same place. -/
theorem runLength_not {b : Bool} {seen : List Bool} (h : 0 < runLength b seen) :
    runLength (!b) seen = 0 := by
  induction seen using List.reverseRecOn with
  | nil => simp
  | append_singleton seen c ih =>
    have hc : c = b := by
      by_contra hne
      simp [hne] at h
    simp [hc]

/-! ## Confirmation -/

/-- Seen `U` times in a row, and since then not missed `D` times in a row. -/
def ConfirmedUp (U D : Nat) (seen : List Bool) : Prop :=
  ∃ before after, seen = before ++ List.replicate U true ++ after ∧
    ¬ List.replicate D false <:+: after

instance (U D : Nat) (seen : List Bool) : Decidable (ConfirmedUp U D seen) :=
  decidable_of_iff (∃ n < seen.length + 1, List.replicate U true <:+ seen.take n ∧
      ¬ List.replicate D false <:+: seen.drop n) <| by
    constructor
    · rintro ⟨n, -, ⟨before, hbefore⟩, hfree⟩
      exact ⟨before, seen.drop n, by rw [hbefore, List.take_append_drop], hfree⟩
    · rintro ⟨before, after, rfl, hfree⟩
      refine ⟨(before ++ List.replicate U true).length, ?_, ?_, ?_⟩
      · simp only [List.length_append]
        omega
      · rw [List.take_left]
        exact List.suffix_append _ _
      · rwa [List.drop_left]

/-- Nothing is confirmed to begin with. -/
theorem not_confirmedUp_nil {U D : Nat} (hU : 0 < U) : ¬ ConfirmedUp U D [] := by
  rintro ⟨before, after, h, -⟩
  have hlen := congrArg List.length h
  simp only [List.length_nil, List.length_append, List.length_replicate] at hlen
  omega

/-- Enough sightings at the very end confirm. -/
theorem confirmedUp_of_le_runLength {U D : Nat} (hD : 0 < D) {seen : List Bool}
    (h : U ≤ runLength true seen) : ConfirmedUp U D seen := by
  obtain ⟨before, rfl⟩ := le_runLength_iff.mp h
  refine ⟨before, [], by simp, ?_⟩
  intro hin
  have hlen := hin.length_le
  simp only [List.length_replicate, List.length_nil] at hlen
  omega

/-- The misses at the end do not reach back over a sighting. -/
theorem runLength_false_after {U : Nat} (hU : 0 < U) (before after : List Bool) :
    runLength false (before ++ List.replicate U true ++ after) = runLength false after := by
  induction after using List.reverseRecOn with
  | nil =>
    obtain ⟨n, rfl⟩ : ∃ n, U = n + 1 := ⟨U - 1, by omega⟩
    rw [List.append_nil, List.replicate_succ', ← List.append_assoc, runLength_snoc]
    simp
  | append_singleton after c ih =>
    rw [← List.append_assoc, runLength_snoc, runLength_snoc, ih]

/-- As long as a peer is confirmed up, the misses at the end are not enough. -/
theorem ConfirmedUp.runLength_lt {U D : Nat} (hU : 0 < U) {seen : List Bool}
    (h : ConfirmedUp U D seen) : runLength false seen < D := by
  obtain ⟨before, after, rfl, hfree⟩ := h
  rw [runLength_false_after hU]
  by_contra hle
  exact hfree (le_runLength_iff.mp (by omega)).isInfix

/-- A sighting confirms, or leaves things as they were. -/
theorem confirmedUp_snoc_true {U D : Nat} (hD : 0 < D) {seen : List Bool} :
    ConfirmedUp U D (seen ++ [true]) ↔
      ConfirmedUp U D seen ∨ U ≤ runLength true (seen ++ [true]) := by
  constructor
  · rintro ⟨before, after, heq, hfree⟩
    cases after using List.reverseRecOn with
    | nil =>
      rw [List.append_nil] at heq
      exact Or.inr (le_runLength_iff.mpr ⟨before, heq.symm⟩)
    | append_singleton after c =>
      rw [← List.append_assoc] at heq
      obtain ⟨hseen, -⟩ := List.append_inj' heq rfl
      exact Or.inl ⟨before, after, hseen, fun hin => hfree (hin.trans (List.infix_append' [] _ _))⟩
  · rintro (⟨before, after, rfl, hfree⟩ | hrun)
    · refine ⟨before, after ++ [true], by simp, ?_⟩
      intro hin
      rcases List.infix_concat_iff.mp hin with hend | hold
      · -- a run of misses cannot end with the sighting
        have hlong := le_runLength_iff.mpr hend
        rw [runLength_snoc] at hlong
        simp at hlong
        omega
      · exact hfree hold
    · exact confirmedUp_of_le_runLength hD hrun

/-- A miss leaves things as they were, or takes the verdict back. -/
theorem confirmedUp_snoc_false {U D : Nat} (hU : 0 < U) {seen : List Bool} :
    ConfirmedUp U D (seen ++ [false]) ↔
      ConfirmedUp U D seen ∧ runLength false (seen ++ [false]) < D := by
  constructor
  · intro h
    refine ⟨?_, h.runLength_lt hU⟩
    obtain ⟨before, after, heq, hfree⟩ := h
    cases after using List.reverseRecOn with
    | nil =>
      -- the window would have to end with the miss
      have hrun := runLength_false_after hU before []
      rw [← heq] at hrun
      simp at hrun
    | append_singleton after c =>
      rw [← List.append_assoc] at heq
      obtain ⟨hseen, -⟩ := List.append_inj' heq rfl
      exact ⟨before, after, hseen, fun hin => hfree (hin.trans (List.infix_append' [] _ _))⟩
  · rintro ⟨⟨before, after, rfl, hfree⟩, hshort⟩
    refine ⟨before, after ++ [false], by simp, ?_⟩
    intro hin
    rcases List.infix_concat_iff.mp hin with hend | hold
    · have hlong := le_runLength_iff.mpr hend
      rw [List.append_assoc, runLength_false_after hU] at hshort
      omega
    · exact hfree hold

/-! ## What a phase says about the history -/

/-- The observations in a row that a threshold asks for: at least two. -/
def quorum (threshold : Int) : Nat :=
  (max 2 threshold).toNat

theorem two_le_quorum (threshold : Int) : 2 ≤ quorum threshold := by
  unfold quorum; omega

@[simp] theorem quorum_natCast (n : Nat) : quorum n = max 2 n := by
  unfold quorum; omega

/-- A count is compared with its threshold only when it is two or more. -/
theorem threshold_le_iff (threshold : Int) {n : Nat} (h : 1 ≤ n) :
    threshold ≤ (n : Int) + 1 ↔ quorum threshold ≤ n + 1 := by
  unfold quorum; omega

/-- The verdict that thresholds give on a history. -/
def Confirms (limits : Thresholds) (seen : List Bool) : Prop :=
  ConfirmedUp (quorum limits.up) (quorum limits.down) seen

/-- A sighting confirms up if it completes the run. -/
theorem confirms_snoc_true {limits : Thresholds} {seen : List Bool} :
    Confirms limits (seen ++ [true]) ↔
      Confirms limits seen ∨ quorum limits.up ≤ runLength true seen + 1 := by
  have hD := two_le_quorum limits.down
  unfold Confirms
  rw [confirmedUp_snoc_true (by omega), runLength_snoc, if_pos rfl]

/-- A miss leaves up confirmed unless it completes the run of misses. -/
theorem confirms_snoc_false {limits : Thresholds} {seen : List Bool} :
    Confirms limits (seen ++ [false]) ↔
      Confirms limits seen ∧ runLength false seen + 1 < quorum limits.down := by
  have hU := two_le_quorum limits.up
  unfold Confirms
  rw [confirmedUp_snoc_false (by omega), runLength_snoc, if_pos rfl]

/-- What a phase says about the observations that led to it. -/
inductive Reflects (limits : Thresholds) (seen : List Bool) : Phase → Prop where
  | up (hconf : Confirms limits seen) (hrun : runLength false seen = 0) :
      Reflects limits seen .up
  | down (hconf : ¬ Confirms limits seen) (hrun : runLength true seen = 0) :
      Reflects limits seen .down
  | maybeUp (k : Nat) (hconf : ¬ Confirms limits seen) (hrun : runLength true seen = k)
      (hpos : 1 ≤ k) : Reflects limits seen (.maybeUp k)
  | maybeDown (k : Nat) (hconf : Confirms limits seen) (hrun : runLength false seen = k)
      (hpos : 1 ≤ k) : Reflects limits seen (.maybeDown k)

/-- The next phase speaks of the longer history, and the step to it was notable just when it
changed the verdict. -/
def StepReflects (limits : Thresholds) (seen : List Bool) (b : Bool) (r : Phase × Bool) : Prop :=
  Reflects limits (seen ++ [b]) r.1 ∧
    (r.2 = true ↔ ¬ (Confirms limits (seen ++ [b]) ↔ Confirms limits seen))

/-- A sighting keeps what a phase says. Only the sighting that fills a count changes the
verdict. -/
theorem Reflects.observe_true {limits : Thresholds} {seen : List Bool} {p : Phase}
    (h : Reflects limits seen p) : StepReflects limits seen true (p.observe limits true) := by
  have hU := two_le_quorum limits.up
  have hnext : Confirms limits (seen ++ [true]) ↔ _ := confirms_snoc_true
  have hreset : runLength false (seen ++ [true]) = 0 := by simp
  have hcount : runLength true (seen ++ [true]) = runLength true seen + 1 := by simp
  cases h with
  -- up is confirmed already, and the sighting ends any misses
  | up hconf hrun | maybeDown k hconf hrun hpos =>
    have hconf' : Confirms limits (seen ++ [true]) := hnext.mpr (Or.inl hconf)
    exact ⟨.up hconf' hreset, by simp [Phase.observe, hconf, hconf']⟩
  | down hconf hrun =>
    -- a first sighting is not enough, because the quorum is two or more
    have hconf' : ¬ Confirms limits (seen ++ [true]) := by
      rw [hnext]; rintro (hc | hlong)
      · exact hconf hc
      · omega
    exact ⟨.maybeUp 1 hconf' (by omega) (by omega), by simp [Phase.observe, hconf, hconf']⟩
  | maybeUp k hconf hrun hpos =>
    have hfull := threshold_le_iff limits.up hpos
    by_cases hk : limits.up ≤ (k : Int) + 1
    · have hconf' : Confirms limits (seen ++ [true]) := hnext.mpr (Or.inr (by omega))
      simp only [Phase.observe, hk, if_true]
      exact ⟨.up hconf' hreset, by simp [hconf, hconf']⟩
    · have hconf' : ¬ Confirms limits (seen ++ [true]) := by
        rw [hnext]; rintro (hc | hlong)
        · exact hconf hc
        · omega
      simp only [Phase.observe, hk, if_false]
      exact ⟨.maybeUp (k + 1) hconf' (by omega) (by omega), by simp [hconf, hconf']⟩

/-- A miss keeps what a phase says. Only the miss that fills a count changes the verdict. -/
theorem Reflects.observe_false {limits : Thresholds} {seen : List Bool} {p : Phase}
    (h : Reflects limits seen p) : StepReflects limits seen false (p.observe limits false) := by
  have hD := two_le_quorum limits.down
  have hnext : Confirms limits (seen ++ [false]) ↔ _ := confirms_snoc_false
  have hreset : runLength true (seen ++ [false]) = 0 := by simp
  have hcount : runLength false (seen ++ [false]) = runLength false seen + 1 := by simp
  cases h with
  -- down is confirmed already, and the miss ends any sightings
  | down hconf hrun | maybeUp k hconf hrun hpos =>
    have hconf' : ¬ Confirms limits (seen ++ [false]) := fun hc => hconf (hnext.mp hc).1
    exact ⟨.down hconf' hreset, by simp [Phase.observe, hconf, hconf']⟩
  | up hconf hrun =>
    have hconf' : Confirms limits (seen ++ [false]) := hnext.mpr ⟨hconf, by omega⟩
    exact ⟨.maybeDown 1 hconf' (by omega) (by omega), by simp [Phase.observe, hconf, hconf']⟩
  | maybeDown k hconf hrun hpos =>
    have hfull := threshold_le_iff limits.down hpos
    by_cases hk : limits.down ≤ (k : Int) + 1
    · have hconf' : ¬ Confirms limits (seen ++ [false]) := by
        rw [hnext]; rintro ⟨-, hshort⟩
        omega
      simp only [Phase.observe, hk, if_true]
      exact ⟨.down hconf' hreset, by simp [hconf, hconf']⟩
    · have hconf' : Confirms limits (seen ++ [false]) := hnext.mpr ⟨hconf, by omega⟩
      simp only [Phase.observe, hk, if_false]
      exact ⟨.maybeDown (k + 1) hconf' (by omega) (by omega), by simp [hconf, hconf']⟩

/-- **One observation** keeps the phase in step with the history. -/
theorem Reflects.observe {limits : Thresholds} {seen : List Bool} {p : Phase}
    (h : Reflects limits seen p) (b : Bool) : StepReflects limits seen b (p.observe limits b) := by
  cases b with
  | true => exact h.observe_true
  | false => exact h.observe_false

/-! ## Every run -/

/-- Observations leave the thresholds alone. -/
@[simp] theorem observeAll_limits (d : Debouncer) (seen : List Bool) :
    (d.observeAll seen).limits = d.limits := by
  induction seen using List.reverseRecOn with
  | nil => rfl
  | append_singleton seen b ih => rw [observeAll_snoc, observe_limits, ih]

/-- Fed from the start, a debouncer reflects all that it was fed. -/
theorem reflects_observeAll (limits : Thresholds) (seen : List Bool) :
    Reflects limits seen ((start limits).observeAll seen).phase := by
  induction seen using List.reverseRecOn with
  | nil =>
    have hU := two_le_quorum limits.up
    exact .down (not_confirmedUp_nil (by omega)) (runLength_nil true)
  | append_singleton seen b ih =>
    have hstep := (ih.observe b).1
    rw [observeAll_snoc]
    simpa only [Debouncer.observe, observeAll_limits, start] using hstep

/-- A move is notable if it changes what is confirmed. -/
theorem notable_observeAll_iff (limits : Thresholds) (seen : List Bool) (b : Bool) :
    ((start limits).observeAll seen).notable b = true ↔
      ¬ (Confirms limits (seen ++ [b]) ↔ Confirms limits seen) := by
  have hstep := ((reflects_observeAll limits seen).observe b).2
  simpa only [notable, observeAll_limits, start] using hstep

/-- A count stays below its quorum: with as many sightings the verdict would be up, and with as
many misses it would be down. -/
theorem progress_observeAll (limits : Thresholds) (seen : List Bool) :
    ∀ q ∈ ((start limits).observeAll seen).progress, 1 ≤ q.1 ∧ q.1 < max 2 q.2 := by
  have hU := two_le_quorum limits.up
  have hD := two_le_quorum limits.down
  have h := reflects_observeAll limits seen
  intro q hq
  unfold progress at hq
  rw [observeAll_limits] at hq
  generalize ((start limits).observeAll seen).phase = p at h hq
  cases h with
  | up | down => simp at hq
  | maybeUp k hconf hrun hpos =>
    -- a run of this length would have been confirmed
    have hshort : ¬ quorum limits.up ≤ runLength true seen := fun hlong =>
      hconf (confirmedUp_of_le_runLength (by omega) hlong)
    obtain rfl : ((k : Int), limits.up) = q := by simpa [start] using hq
    unfold quorum at hshort
    constructor <;> simp only <;> omega
  | maybeDown k hconf hrun hpos =>
    have hshort : runLength false seen < quorum limits.down :=
      ConfirmedUp.runLength_lt (by omega) hconf
    obtain rfl : ((k : Int), limits.down) = q := by simpa [start] using hq
    unfold quorum at hshort
    constructor <;> simp only <;> omega

/-! ## The closed form -/

/-- The phase that belongs to a history, said without a machine. -/
def phaseOf (U D : Nat) (seen : List Bool) : Phase :=
  if ConfirmedUp U D seen then
    if seen.getLast? = some true then .up else .maybeDown (runLength false seen)
  else
    if seen.getLast? = some true then .maybeUp (runLength true seen) else .down

/-- A history leaves no choice of the phase. -/
theorem Reflects.eq_phaseOf {limits : Thresholds} {seen : List Bool} {p : Phase}
    (h : Reflects limits seen p) : p = phaseOf (quorum limits.up) (quorum limits.down) seen := by
  have hU := two_le_quorum limits.up
  cases h with
  | up hconf hrun =>
    unfold Confirms at hconf
    -- a confirmed history is not empty, and it does not end with a miss
    have hlast : seen.getLast? = some true := by
      cases hl : seen.getLast? with
      | none =>
        rw [List.getLast?_eq_none_iff.mp hl] at hconf
        exact absurd hconf (not_confirmedUp_nil (by omega))
      | some b =>
        cases b with
        | true => rfl
        | false =>
          have hpos := getLast?_eq_some_iff.mp hl
          omega
    rw [phaseOf, if_pos hconf, if_pos hlast]
  | down hconf hrun =>
    unfold Confirms at hconf
    have hlast : ¬ seen.getLast? = some true := by
      rw [getLast?_eq_some_iff]; omega
    rw [phaseOf, if_neg hconf, if_neg hlast]
  | maybeUp k hconf hrun hpos =>
    unfold Confirms at hconf
    have hlast : seen.getLast? = some true := by
      rw [getLast?_eq_some_iff]; omega
    rw [phaseOf, if_neg hconf, if_pos hlast, hrun]
  | maybeDown k hconf hrun hpos =>
    unfold Confirms at hconf
    have hlast : ¬ seen.getLast? = some true := by
      have hother : runLength true seen = 0 := runLength_not (b := false) (by omega)
      rw [getLast?_eq_some_iff]; omega
    rw [phaseOf, if_pos hconf, if_neg hlast, hrun]

/-- **The closed form of the debouncer.** Fed with a history from the start, it is in the phase that
the windows of the history call for and keeps its thresholds. An observation is notable just when
it changes the verdict, and a count that can be reached lies between one and its quorum. -/
theorem observeAll_start_eq (up down : Nat) (seen : List Bool) :
    (start ⟨up, down⟩).observeAll seen = ⟨phaseOf (max 2 up) (max 2 down) seen, ⟨up, down⟩⟩ ∧
    (∀ b, ((start ⟨up, down⟩).observeAll seen).notable b = true ↔
      ¬ (ConfirmedUp (max 2 up) (max 2 down) (seen ++ [b]) ↔
        ConfirmedUp (max 2 up) (max 2 down) seen)) ∧
    (∀ q ∈ ((start ⟨up, down⟩).observeAll seen).progress, 1 ≤ q.1 ∧ q.1 < max 2 q.2) := by
  refine ⟨?_, ?_, progress_observeAll _ _⟩
  · -- thresholds that are natural numbers make the quorum a maximum
    have hphase := (reflects_observeAll ⟨up, down⟩ seen).eq_phaseOf
    rw [quorum_natCast, quorum_natCast] at hphase
    have hlimits := observeAll_limits (start ⟨up, down⟩) seen
    rw [← hphase]
    exact congrArg (Debouncer.mk _) hlimits
  · intro b
    have hnotable := notable_observeAll_iff ⟨up, down⟩ seen b
    rw [Confirms, Confirms, quorum_natCast, quorum_natCast] at hnotable
    exact hnotable

/-- With a threshold of three, two misses in a row do not yet take the verdict back. -/
example : phaseOf 2 3 [true, true, false, true, false, false] = .maybeDown 2 := by decide

end EchoWatch.Debouncer
