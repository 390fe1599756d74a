import EchoWatch.Settings.Basic
/-!
# What is accepted

What is known of a check is what holds of the values that it accepts, and when it is aborted
(`Check.Meets`). Both are carried from the parts of a check to the whole, and through the readers up
to the whole configuration.

* **`Sound`**: what holds of a configuration that is accepted.
* **`Uncountable`**: the documents with a duration out of range, for which the check is aborted.
* **`meets_ofValue`**: the check of a document accepts only the one and is aborted just for the
  other.
-/

namespace EchoWatch.Settings

variable {α β : Type}

/-! ## Checks

A check accepts a value, reports faults, or is aborted. Faults of two checks are collected, while an
abort ends everything. So for the faults nothing has to be said here, and for the aborts it has to
be said exactly when they happen. -/

namespace Check

variable {c : Check α} {P : α → Prop} {A : Prop}

/-- What a check accepts, and when it is aborted. -/
structure Meets (c : Check α) (post : α → Prop) (abort : Prop) : Prop where
  valid : ∀ a, c = .valid a → post a
  aborts : (∃ cause, c = .aborted cause) ↔ abort

/-- A value that is accepted has to be proved good. -/
theorem meets_valid {a : α} (h : P a) : (Check.valid a).Meets P False where
  valid := by
    rintro b ⟨⟩
    exact h
  aborts := by simp

/-- Faults accept nothing and abort nothing. -/
theorem meets_invalid (faults : List Fault) : (Check.invalid faults : Check α).Meets P False where
  valid := by
    rintro b ⟨⟩
  aborts := by simp

theorem meets_fault (cause : Cause) : (fault cause : Check α).Meets P False :=
  meets_invalid _

/-- An abort accepts nothing. -/
theorem meets_aborted (cause : Duration.Overflow) :
    (Check.aborted cause : Check α).Meets P True where
  valid := by
    rintro b ⟨⟩
  aborts := by simp

theorem Meets.congr {B : Prop} (h : c.Meets P A) (habort : A ↔ B) : c.Meets P B where
  valid := h.valid
  aborts := h.aborts.trans habort

theorem Meets.mono {Q : α → Prop} (h : c.Meets P A) (hpost : ∀ a, P a → Q a) : c.Meets Q A where
  valid a ha := hpost a (h.valid a ha)
  aborts := h.aborts

/-- What is made of an accepted value has to be proved good. -/
theorem Meets.map {Q : β → Prop} {f : α → β} (h : c.Meets P A) (hf : ∀ a, P a → Q (f a)) :
    (c.map f).Meets Q A := by
  -- an abort is an abort of the part, whatever the outcome
  rw [← h.aborts]
  cases c with
  | valid a => exact (meets_valid (hf a (h.valid a rfl))).congr (by simp)
  | invalid faults => exact (meets_invalid faults).congr (by simp)
  | aborted cause => exact (meets_aborted cause).congr (by simp)

/-- The place of the faults plays no part. -/
theorem Meets.located (h : c.Meets P A) (step : Locator) : (c.located step).Meets P A := by
  rw [← h.aborts]
  cases c with
  | valid a => exact (meets_valid (h.valid a rfl)).congr (by simp)
  | invalid faults => exact (meets_invalid _).congr (by simp)
  | aborted cause => exact (meets_aborted cause).congr (by simp)

/-- Two checks are aborted if either of them is. By cases on what the two come to. -/
theorem Meets.both {d : Check β} {Q : β → Prop} {B : Prop} (hc : c.Meets P A) (hd : d.Meets Q B) :
    (both c d).Meets (fun p => P p.1 ∧ Q p.2) (A ∨ B) := by
  rw [← hc.aborts, ← hd.aborts]
  -- an abort of either check ends both, whatever faults the other one has
  cases c with
  | aborted cause => exact (meets_aborted cause).congr (by simp)
  | valid a =>
    cases d with
    | valid b => exact (meets_valid ⟨hc.valid a rfl, hd.valid b rfl⟩).congr (by simp)
    | invalid faults => exact (meets_invalid faults).congr (by simp)
    | aborted cause => exact (meets_aborted cause).congr (by simp)
  | invalid faults =>
    cases d with
    | valid b => exact (meets_invalid faults).congr (by simp)
    | invalid more => exact (meets_invalid _).congr (by simp)
    | aborted cause => exact (meets_aborted cause).congr (by simp)

theorem Meets.both_safe {d : Check β} {Q : β → Prop} (hc : c.Meets P False)
    (hd : d.Meets Q False) : (Check.both c d).Meets (fun p => P p.1 ∧ Q p.2) False :=
  (hc.both hd).congr or_self_iff

/-- A second check is made of what the first one accepts, and only it can be aborted. -/
theorem Meets.andThen {Q : β → Prop} {B : α → Prop} {second : α → Check β} (h : c.Meets P False)
    (hsecond : ∀ a, P a → (second a).Meets Q (B a)) :
    (c.andThen second).Meets Q (∃ a, c = .valid a ∧ B a) := by
  cases c with
  | valid a => exact (hsecond a (h.valid a rfl)).congr (by simp)
  | invalid faults => exact (meets_invalid faults).congr (by simp)
  | aborted cause => exact (h.aborts.mp ⟨cause, rfl⟩).elim

theorem Meets.andThen_safe {Q : β → Prop} {second : α → Check β} (h : c.Meets P False)
    (hsecond : ∀ a, P a → (second a).Meets Q False) : (c.andThen second).Meets Q False :=
  (h.andThen hsecond).congr (by simp)

/-- A condition that is tested holds of what is accepted. -/
theorem meets_unless {p : Prop} [Decidable p] {a : α} (cause : Cause) (h : ¬ p → P a) :
    (if p then fault cause else .valid a : Check α).Meets P False := by
  split
  · exact meets_fault cause
  next hp => exact meets_valid (h hp)

/-- **A list is accepted** when all its items are. Induction on the list. -/
theorem meets_all {cs : List (Check α)} (h : ∀ c ∈ cs, c.Meets P False) :
    (all cs).Meets (fun as => ∀ a ∈ as, P a) False := by
  induction cs with
  | nil => exact meets_valid (List.forall_mem_nil P)
  | cons c cs ih =>
    rw [List.forall_mem_cons] at h
    exact (h.1.both_safe (ih h.2)).map fun as has => List.forall_mem_cons.mpr has

end Check

open Check

/-! ## Fields

A field is looked up under its two spellings and then read. Its reader can only be aborted for the
contents that are found, and a field with a default not at all when it is missing. -/

section Fields

variable (k : Key) {read : Value → Check α} {P : α → Prop} {A : Value → Prop}

/-- A required field is aborted by its contents; if it is missing that is a fault. -/
theorem meets_required (hread : ∀ v, (read v).Meets P (A v)) (entries : List (Value × Value)) :
    (required k read entries).Meets P (∃ name v, k.find? entries = some (name, v) ∧ A v) := by
  unfold required
  cases hfind : k.find? entries with
  | none => exact ((meets_fault .missing).located _).congr (by simp)
  | some entry =>
    obtain ⟨name, v⟩ := entry
    refine ((hread v).located _).congr ⟨fun h => ⟨name, v, rfl, h⟩, ?_⟩
    rintro ⟨_, _, ⟨⟩, h⟩
    exact h

theorem meets_required_safe (hread : ∀ v, (read v).Meets P False)
    (entries : List (Value × Value)) : (required k read entries).Meets P False :=
  (meets_required k hread entries).congr (by simp)

/-- An optional field is what its reader accepts, or its default. -/
theorem meets_optional (default : α) (hdefault : P default) (hread : ∀ v, (read v).Meets P False)
    (entries : List (Value × Value)) : (optional k read default entries).Meets P False := by
  unfold optional
  cases k.find? entries with
  | none => exact meets_valid hdefault
  | some entry => exact (hread entry.2).located _

/-- A model is aborted by the entries of a mapping; a value of another kind is a fault. -/
theorem meets_asModel {model : String} {read : List (Value × Value) → Check α}
    {B : List (Value × Value) → Prop} (hread : ∀ entries, (read entries).Meets P (B entries))
    (v : Value) : (asModel model read v).Meets P (∃ entries, v = .map entries ∧ B entries) := by
  unfold asModel
  split
  next entries => exact (hread entries).congr (by simp)
  next hmapping =>
    refine (meets_fault _).congr ⟨False.elim, ?_⟩
    rintro ⟨entries, hentries, -⟩
    exact hmapping entries hentries

theorem meets_asModel_safe {model : String} {read : List (Value × Value) → Check α}
    (hread : ∀ entries, (read entries).Meets P False) (v : Value) :
    (asModel model read v).Meets P False :=
  (meets_asModel hread v).congr (by simp)

end Fields

/-! ## Texts and counts

None of these readers is ever aborted. Of a count it is known besides that it is not negative. -/

/-- A check that is never aborted, whatever it accepts. -/
abbrev Harmless (c : Check α) : Prop :=
  c.Meets (fun _ => True) False

theorem harmless_asText (v : Value) : Harmless (asText v) := by
  unfold asText
  split
  · -- a text is taken as it is, and bytes if they are one
    exact meets_valid trivial
  · split
    · exact meets_valid trivial
    · exact meets_fault _
  · exact meets_fault _

/-- A text that must not be empty, and must not have halves of pairs. -/
theorem harmless_asNonemptyText (v : Value) : Harmless (asNonemptyText v) := by
  unfold asNonemptyText asWholeText
  have hwhole := (harmless_asText v).andThen_safe fun s _ =>
    @meets_unless _ (fun _ => True) (Text.hasHalf s) _ s .notUnicode fun _ => trivial
  exact hwhole.andThen_safe fun s _ => meets_unless .emptyText fun _ => trivial

/-- A numeral can be faulty in four ways. -/
theorem harmless_naturalOfStrict (cs : List Char) :
    Harmless (naturalOfStrict cs) := by
  unfold naturalOfStrict
  split
  · exact meets_valid trivial
  · dsimp only
    split
    · exact meets_fault _
    split
    · exact meets_fault _
    split
    · exact meets_fault _
    · exact meets_valid trivial
  · exact meets_fault _

theorem harmless_integerOfText (s : String) : Harmless (integerOfText s) := by
  unfold integerOfText
  split
  · exact (harmless_naturalOfStrict _).map fun _ => id
  · exact harmless_naturalOfStrict _
  · exact meets_fault _

theorem harmless_integerOfNumber (x : Binary64) :
    Harmless (integerOfNumber x) := by
  unfold integerOfNumber
  split
  · exact meets_fault _
  split
  · exact meets_fault _
  split
  · exact meets_valid trivial
  · exact meets_fault _

/-- By cases on the kind of the value: integers and truth values as they are, doubles if they are
whole, texts if they are numerals. -/
theorem harmless_asInteger (v : Value) : Harmless (asInteger v) := by
  unfold asInteger
  split
  · exact meets_valid trivial
  · exact meets_valid trivial
  · exact harmless_integerOfNumber _
  · split
    · exact meets_fault _
    · exact harmless_integerOfText _
  · split
    · exact harmless_integerOfText _
    · exact meets_fault _
  · exact meets_fault _

/-- **Counts are not negative.** -/
theorem meets_asCount (v : Value) : (asCount v).Meets (fun n => 0 ≤ n) False := by
  unfold asCount
  exact (harmless_asInteger v).andThen_safe fun n _ => meets_unless .negative Int.not_lt.mp

/-! ## Durations

The readers of durations are the only ones that can be aborted, and only by an overflow: a text that
is no duration is a fault as any other. -/

/-- What is read of a value as a text is a duration out of range. -/
def IsLong (v : Value) : Prop :=
  ∃ s, asText v = .valid s ∧ ∃ cause, Duration.parse s = .error (.overflow cause)

/-- **A duration is accepted** if it is one and has the property that is asked for, and aborts the
check if it is out of range. -/
theorem meets_asDuration (holds : Micros → Bool) (otherwise : String) (v : Value) :
    (asDuration holds otherwise v).Meets
      (fun s => ∃ us, Duration.parse s = .ok us ∧ holds us = true) (IsLong v) := by
  unfold asDuration
  refine (harmless_asText v).andThen fun s _ => ?_
  cases hparse : Duration.parse s with
  | ok us =>
    dsimp only
    split
    next hholds => exact (meets_valid ⟨us, hparse, hholds⟩).congr (by simp)
    next => exact (meets_fault _).congr (by simp)
  | error e =>
    cases e with
    | overflow cause => exact (meets_aborted cause).congr (by simp)
    | empty => exact (meets_fault _).congr (by simp)
    | malformed text => exact (meets_fault _).congr (by simp)

theorem micros_of_parse {s : String} {us : Micros} (h : Duration.parse s = .ok us) :
    micros s = us := by
  rw [micros, h]

/-- The time between two checks is positive. -/
theorem meets_asCycle (v : Value) :
    (asCycle v).Meets (fun s => Duration.parse s = .ok (micros s) ∧ 0 < micros s) (IsLong v) := by
  refine (meets_asDuration _ _ v).mono ?_
  rintro s ⟨us, hparse, hpos⟩
  rw [micros_of_parse hparse]
  exact ⟨hparse, of_decide_eq_true hpos⟩

/-- The time after which a peer is missed is not negative. -/
theorem meets_asTimeout (v : Value) :
    (asTimeout v).Meets (fun s => Duration.parse s = .ok (micros s) ∧ 0 ≤ micros s) (IsLong v) := by
  refine (meets_asDuration _ _ v).mono ?_
  rintro s ⟨us, hparse, hnonneg⟩
  rw [micros_of_parse hparse]
  exact ⟨hparse, of_decide_eq_true hnonneg⟩

/-! ## Models

The fields of a peer and of a notifier are put together, and no duration is among them. -/

/-- Thresholds that are given for peers are not negative. -/
def PeerSound (p : PeerSettings) : Prop :=
  0 ≤ p.upThreshold ∧ 0 ≤ p.downThreshold

/-- The fields of a peer, none of which can abort the check. -/
theorem meets_asPeer (v : Value) : (asPeer v).Meets PeerSound False := by
  refine meets_asModel_safe (fun entries => ?_) v
  have htext (k : Key) := meets_required_safe k harmless_asNonemptyText entries
  have hcount (k : Key) := meets_optional k 0 (Int.le_refl 0) meets_asCount entries
  have hwebhook := meets_optional .webhook "" trivial harmless_asText entries
  have hall := ((((htext .name).both_safe (htext .network)).both_safe
    (hcount .upThreshold)).both_safe (hcount .downThreshold)).both_safe hwebhook
  exact hall.map fun p hp => ⟨hp.1.1.2, hp.1.2⟩

/-- A list of peers, or any other collection of them. -/
theorem meets_asPeers (v : Value) : (asPeers v).Meets (fun ps => ∀ p ∈ ps, PeerSound p) False := by
  have hitem (item : Value × Nat) := (meets_asPeer item.1).located (.index item.2)
  unfold asPeers
  split
  · exact meets_all (List.forall_mem_map.mpr fun item _ => hitem item)
  · exact meets_all (List.forall_mem_map.mpr fun item _ => hitem item)
  · exact meets_fault _

/-- The key of an option has to be a text, and nothing is asked of its value. -/
theorem harmless_asOption (entry : Value × Value) : Harmless (asOption entry) := by
  have hkey := (harmless_asText entry.1).located (.key "[key]")
  unfold asOption
  split
  · exact meets_valid trivial
  · exact (meets_invalid _).located _
  next cause hcause => exact (hkey.aborts.mp ⟨cause, hcause⟩).elim

/-- A type and options, both of which have defaults. -/
theorem harmless_asNotifier (v : Value) : Harmless (asNotifier v) := by
  have hoptions (v : Value) : Harmless (asOptions v) := by
    unfold asOptions
    split
    · exact (meets_all (List.forall_mem_map.mpr fun entry _ => harmless_asOption entry)).mono
        fun _ _ => trivial
    · exact meets_fault _
  refine meets_asModel_safe (fun entries => ?_) v
  have hall := (meets_optional .type "webhook" trivial harmless_asText entries).both_safe
    (meets_optional .options [] trivial hoptions entries)
  exact hall.map fun _ _ => trivial

/-! ## The configuration

All fields together. The two durations are required, so a document that is accepted has them, and
both are in range. -/

/-- What holds of a configuration that is accepted. -/
structure Sound (s : Settings) : Prop where
  cycle : Duration.parse s.monitorCycle = .ok s.cycle
  cycle_pos : 0 < s.cycle
  timeout : Duration.parse s.peerTimeout = .ok s.timeout
  timeout_nonneg : 0 ≤ s.timeout
  up_nonneg : 0 ≤ s.upThreshold
  down_nonneg : 0 ≤ s.downThreshold
  peers : ∀ p ∈ s.peers, PeerSound p

/-- A document whose monitor cycle or peer timeout is a duration out of range. -/
def Uncountable (v : Value) : Prop :=
  ∃ entries, v = .map entries ∧ ∃ k, (k = Key.monitorCycle ∨ k = Key.peerTimeout) ∧
    ∃ name field, k.find? entries = some (name, field) ∧ IsLong field

/-- **The whole configuration.** What is accepted is sound, and the check is aborted just by a
duration out of range. -/
theorem meets_ofValue (v : Value) : (ofValue v).Meets Sound (Uncountable v) := by
  refine meets_asModel (fun entries => ?_) v
  have hcount (k : Key) := meets_optional k 0 (Int.le_refl 0) meets_asCount entries
  have hcycle := meets_required .monitorCycle meets_asCycle entries
  have htimeout := meets_required .peerTimeout meets_asTimeout entries
  have hwebhook := meets_optional .webhook "" trivial harmless_asText entries
  have hnotifier := meets_optional .notifier ⟨"webhook", []⟩ trivial harmless_asNotifier entries
  have hpeers := meets_optional .peers [] (List.forall_mem_nil _) meets_asPeers entries
  have hall := ((((((hcount .upThreshold).both (hcount .downThreshold)).both hcycle).both
    htimeout).both hwebhook).both hnotifier).both hpeers
  refine (hall.map ?_).congr ?_
  · rintro ⟨⟨⟨⟨⟨⟨up, down⟩, cycle⟩, timeout⟩, webhook⟩, notifier⟩, peers⟩
      ⟨⟨⟨⟨⟨⟨hup, hdown⟩, hcycle⟩, htimeout⟩, -⟩, -⟩, hpeers⟩
    exact ⟨hcycle.1, hcycle.2, htimeout.1, htimeout.2, hup, hdown, hpeers⟩
  · -- of all the fields only the two durations can abort the check
    simp only [false_or, or_false, or_and_right, exists_or, exists_eq_left]

/-- A configuration needs its two durations and nothing else. -/
theorem ofValue_of_durations {cycle timeout : String} {c t : Micros}
    (hcycle : Duration.parse cycle = .ok c) (hpos : 0 < c)
    (htimeout : Duration.parse timeout = .ok t) (hnonneg : 0 ≤ t) :
    ofValue (.map [(.text "monitor_cycle", .text cycle), (.text "peer_timeout", .text timeout)]) =
      .valid ⟨0, 0, cycle, timeout, "", ⟨"webhook", []⟩, []⟩ := by
  have hasCycle : asCycle (.text cycle) = .valid cycle := by
    simp [asCycle, asDuration, asText, andThen, hcycle, hpos]
  have hasTimeout : asTimeout (.text timeout) = .valid timeout := by
    simp [asTimeout, asDuration, asText, andThen, htimeout, hnonneg]
  simp [ofValue, asModel, optional, required, Key.find?, Value.lookup?, Value.isText,
    Key.upThreshold, Key.downThreshold, Key.monitorCycle, Key.peerTimeout, Key.webhook,
    Key.notifier, Key.peers, hasCycle, hasTimeout, located, both, map]

end EchoWatch.Settings
