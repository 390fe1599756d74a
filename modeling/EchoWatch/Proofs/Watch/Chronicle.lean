import EchoWatch.Proofs.Watch.Record
import Mathlib.Data.List.ReduceOption
/-!
# A peer's state from its notices alone

Whoever gets the notices of a peer, and nothing else, knows how it stands. A verbose monitor tells
every step, and each notice begins where the one before it ended. A quiet monitor tells a verdict
each time that it turns: up first, then down, then up again, and never before the peer was observed
often enough in a row.

* **`standing`**: the state that some postings leave a reader with.
* **`Told`**: postings that each fit what was standing before; `Notice.Continues` is what fits on a
  verbose monitor and `Notice.Turns` what fits on a quiet one.
* **`Spaced`**: how many checks lie before and between postings.
* **`Session.record_tells_state`**: the record of any peer after any run.

The invariants `Traced` and `Proclaimed` relate the record of a peer to its debouncer. One check
keeps them, so every run does (`Session.record_induction`).
-/

namespace EchoWatch

/-! ## Reading postings in order -/

/-- The state that postings leave a reader with: the one told last. A peer starts down. -/
def standing (told : List Posting) : String :=
  (told.getLast?.map fun posting => posting.notice.newState).getD "Down"

/-- Every posting fits what the postings before it left standing. -/
def Told (Fits : String → Notice → Prop) (told : List Posting) : Prop :=
  ∀ before posting, before ++ [posting] <+: told → Fits (standing before) posting.notice

/-- A notice that begins with the state that is standing. -/
def Notice.Continues (state : String) (n : Notice) : Prop :=
  n.prevState = state

/-- A notice of the verdict that is not standing. -/
def Notice.Turns (state : String) (n : Notice) : Prop :=
  state = "Down" ∧ n.newState = "Up" ∨ state = "Up" ∧ n.newState = "Down"

@[simp] theorem standing_snoc (told : List Posting) (posting : Posting) :
    standing (told ++ [posting]) = posting.notice.newState := by
  simp [standing]

theorem Told.nil {Fits : String → Notice → Prop} : Told Fits [] := by
  intro before posting h
  simp [List.prefix_nil] at h

/-- A posting may follow if it fits what stands. -/
theorem Told.snoc {Fits : String → Notice → Prop} {told : List Posting} (h : Told Fits told)
    {posting : Posting} (hfits : Fits (standing told) posting.notice) :
    Told Fits (told ++ [posting]) := by
  intro before last hle
  rcases List.prefix_concat_iff.mp hle with hall | hold
  · obtain ⟨rfl, hlast⟩ := List.append_inj' hall rfl
    obtain rfl : last = posting := List.singleton_inj.mp hlast
    exact hfits
  · exact h before last hold

/-! ## Checks between postings -/

/-- How many checks at the end of a record made nothing. -/
def lull (record : List (Option Posting)) : Nat :=
  (record.rtakeWhile Option.isNone).length

@[simp] theorem lull_snoc_none (record : List (Option Posting)) :
    lull (record ++ [none]) = lull record + 1 := by
  simp [lull]

@[simp] theorem lull_snoc_some (record : List (Option Posting)) (posting : Posting) :
    lull (record ++ [some posting]) = 0 := by
  simp [lull]

theorem lull_le_length (record : List (Option Posting)) : lull record ≤ record.length :=
  (List.rtakeWhile_suffix _ _).length_le

/-- A posting lies before the lull. -/
theorem lull_le_of_posting {record : List (Option Posting)} {k : Nat} {posting : Posting}
    (h : record[k]? = some (some posting)) : k + lull record + 1 ≤ record.length := by
  induction record using List.reverseRecOn with
  | nil => simp at h
  | append_singleton record entry ih =>
    rw [List.length_append, List.length_singleton]
    rcases Session.of_getElem?_snoc h with hold | ⟨rfl, rfl⟩
    · have hbefore := ih hold
      cases entry with
      | none => rw [lull_snoc_none]; omega
      | some last => rw [lull_snoc_some]; omega
    · rw [lull_snoc_some]

/-- Postings that tell of a state come no sooner than `n` checks after any earlier one. -/
def Apart (state : String) (n : Nat) (record : List (Option Posting)) : Prop :=
  ∀ k l earlier posting, k < l → record[k]? = some (some earlier) →
    record[l]? = some (some posting) → posting.notice.newState = state → k + n ≤ l

/-- What the lull grants to the next posting, it grants against all earlier ones. -/
theorem Apart.snoc {state : String} {n : Nat} {record : List (Option Posting)}
    (h : Apart state n record) {entry : Option Posting}
    (hentry : ∀ posting ∈ entry, posting.notice.newState = state → n ≤ lull record + 1) :
    Apart state n (record ++ [entry]) := by
  intro k l earlier posting hkl hk hl hstate
  -- only the later of two postings can be the new entry
  have hkold : record[k]? = some (some earlier) := by
    rcases Session.of_getElem?_snoc hk with hold | ⟨rfl, -⟩
    · exact hold
    · have hlen := (List.getElem?_eq_some_iff.mp hl).1
      rw [List.length_append, List.length_singleton] at hlen
      omega
  rcases Session.of_getElem?_snoc hl with hold | ⟨rfl, rfl⟩
  · exact h k l earlier posting hkl hkold hold hstate
  · have hlull := lull_le_of_posting hkold
    have hn := hentry posting rfl hstate
    omega

/-- The first posting of a record takes `U` checks, and later ones take `U` or `D` checks after any
earlier one, as they tell of up or of down. -/
structure Spaced (U D : Nat) (record : List (Option Posting)) : Prop where
  first : ∀ l posting, record[l]? = some (some posting) → U ≤ l + 1
  up : Apart "Up" U record
  down : Apart "Down" D record

theorem Spaced.nil (U D : Nat) : Spaced U D [] :=
  ⟨fun _ _ h => by simp at h, fun _ _ _ _ _ h => by simp at h, fun _ _ _ _ _ h => by simp at h⟩

/-- The distances are kept if the last posting keeps them. -/
theorem Spaced.snoc {U D : Nat} {record : List (Option Posting)} (h : Spaced U D record)
    {entry : Option Posting} (hfirst : ∀ posting ∈ entry, U ≤ record.length + 1)
    (hup : ∀ posting ∈ entry, posting.notice.newState = "Up" → U ≤ lull record + 1)
    (hdown : ∀ posting ∈ entry, posting.notice.newState = "Down" → D ≤ lull record + 1) :
    Spaced U D (record ++ [entry]) := by
  refine ⟨?_, h.up.snoc hup, h.down.snoc hdown⟩
  intro l posting hl
  rcases Session.of_getElem?_snoc hl with hold | ⟨rfl, rfl⟩
  · exact h.first l posting hold
  · exact hfirst posting rfl

/-! ## One observation -/

theorem reduceOption_snoc (record : List (Option Posting)) (entry : Option Posting) :
    (record ++ [entry]).reduceOption = record.reduceOption ++ entry.toList := by
  rw [List.reduceOption_append, List.reduceOption_singleton]

section Observation

variable {record : List (Option Posting)} {d : Debouncer} {seen : Bool}

/-- The record of a verbose monitor and the debouncer that it tells of. A state that has been told
has a name. -/
structure Traced (record : List (Option Posting)) (d : Debouncer) : Prop where
  chain : Told Notice.Continues record.reduceOption
  state : standing record.reduceOption = d.wording
  legible : d.legible = true

/-- A posting that tells of the move goes on from the state before it. -/
theorem Traced.told (h : Traced record d) {posting : Posting}
    (hprev : posting.notice.prevState = d.wording)
    (hnew : posting.notice.newState = (d.observe seen).wording)
    (hlegible : (d.observe seen).legible = true) :
    Traced (record ++ [some posting]) (d.observe seen) := by
  refine ⟨?_, ?_, hlegible⟩
  · rw [reduceOption_snoc]
    exact h.chain.snoc (hprev.trans h.state.symm)
  · rw [reduceOption_snoc, Option.toList_some, standing_snoc, hnew]

/-- Where nothing is posted, nothing has moved. -/
theorem Traced.unchanged (h : Traced record d) (hsame : d.observe seen = d) :
    Traced (record ++ [none]) (d.observe seen) := by
  refine ⟨?_, ?_, by rw [hsame]; exact h.legible⟩
  · rw [reduceOption_snoc, Option.toList_none, List.append_nil]
    exact h.chain
  · rw [reduceOption_snoc, Option.toList_none, List.append_nil, hsame]
    exact h.state

/-- The record of a quiet monitor and the debouncer whose verdicts it tells. A verdict of up has
taken its checks, and what is counted against a verdict was observed in the lull. -/
structure Proclaimed (limits : Thresholds) (record : List (Option Posting)) (d : Debouncer) :
    Prop where
  limits_eq : d.limits = limits
  chain : Told Notice.Turns record.reduceOption
  state : standing record.reduceOption = if d.phase.verdict then "Up" else "Down"
  spaced : Spaced (Debouncer.quorum limits.up) (Debouncer.quorum limits.down) record
  enough : d.phase.verdict = true → Debouncer.quorum limits.up ≤ record.length
  within : d.phase.Within (lull record)

/-- A verdict that turns is posted. It takes as many checks since the last posting as the threshold
asks for, since each of them counted. -/
theorem Proclaimed.turned {limits : Thresholds} (h : Proclaimed limits record d)
    (hnotable : d.notable seen = true) {posting : Posting}
    (hnew : posting.notice.newState = (d.observe seen).wording) :
    Proclaimed limits (record ++ [some posting]) (d.observe seen) := by
  have hmove := d.move seen
  rw [hnotable] at hmove
  obtain ⟨hprev, hphase, hquorum⟩ := hmove.turns h.within
  rw [h.limits_eq] at hquorum
  have hverdict : (d.observe seen).phase.verdict = seen := by
    rw [hphase]
    cases seen <;> rfl
  have hstate : posting.notice.newState = if seen then "Up" else "Down" := by
    rw [hnew]
    cases seen with
    | true => exact Debouncer.wording_eq_up_iff.mpr hphase
    | false => exact Debouncer.wording_eq_down_iff.mpr hphase
  have hlen := lull_le_length record
  refine ⟨h.limits_eq, ?_, ?_, h.spaced.snoc ?_ ?_ ?_, ?_, ?_⟩
  · rw [reduceOption_snoc]
    refine h.chain.snoc ?_
    rw [h.state, hprev]
    cases seen with
    | true => exact Or.inl ⟨rfl, hstate⟩
    | false => exact Or.inr ⟨rfl, hstate⟩
  · rw [reduceOption_snoc, Option.toList_some, standing_snoc, hstate, hverdict]
  · -- up has just taken its checks; down follows an up that took them before
    rintro _ ⟨⟩
    cases seen with
    | true => exact hquorum.trans (by omega)
    | false => exact (h.enough hprev).trans (by omega)
  · rintro _ ⟨⟩ hup
    cases seen with
    | true => exact hquorum
    | false => rw [hstate] at hup; exact absurd hup (by decide)
  · rintro _ ⟨⟩ hdown
    cases seen with
    | true => rw [hstate] at hdown; exact absurd hdown (by decide)
    | false => exact hquorum
  · rw [hverdict, List.length_append, List.length_singleton]
    rintro rfl
    exact hquorum.trans (by omega)
  · rw [hphase]
    cases seen <;> trivial

/-- A check that turns nothing is one more since the last posting. -/
theorem Proclaimed.silent {limits : Thresholds} (h : Proclaimed limits record d)
    (hsilent : d.notable seen = false) :
    Proclaimed limits (record ++ [none]) (d.observe seen) := by
  have hmove := d.move seen
  -- what is not notable leaves the verdict as it is
  have hverdict : (d.observe seen).phase.verdict = d.phase.verdict := by
    by_contra hne
    rw [hmove.notable_iff.mpr hne] at hsilent
    cases hsilent
  refine ⟨h.limits_eq, ?_, ?_, h.spaced.snoc nofun nofun nofun, ?_, ?_⟩
  · rw [reduceOption_snoc, Option.toList_none, List.append_nil]
    exact h.chain
  · rw [reduceOption_snoc, Option.toList_none, List.append_nil, hverdict]
    exact h.state
  · rw [hverdict, List.length_append, List.length_singleton]
    intro hup
    exact (h.enough hup).trans (by omega)
  · rw [lull_snoc_none]
    exact hmove.within h.within

end Observation

/-! ## Every run

The invariants hold of a record with the state of its peer, check by check. `record_induction` asks
for them at the start and at each check, so that nothing else about a run is needed. -/

namespace Peer

variable {record : List (Option Posting)} {p : Peer}

/-- A verbose check tells just the steps that change the state. -/
theorem traced_check (h : Traced record p.debouncer) {timeout : Micros} {now : Moment}
    (hlegible : p.Legible timeout now) :
    Traced (record ++ [p.due? true timeout now]) (p.checked timeout now).debouncer := by
  rw [due?_verbose]
  by_cases hsame : (p.checked timeout now).debouncer = p.debouncer
  · rw [if_neg (not_not.mpr hsame)]
    exact h.unchanged hsame
  · rw [if_pos hsame]
    exact h.told rfl rfl hlegible.2

/-- A quiet check tells just the steps that turn the verdict. -/
theorem proclaimed_check {limits : Thresholds} (h : Proclaimed limits record p.debouncer)
    (timeout : Micros) (now : Moment) :
    Proclaimed limits (record ++ [p.due? false timeout now]) (p.checked timeout now).debouncer := by
  rw [due?_quiet]
  by_cases hnotable : p.debouncer.notable (recent timeout now p.lastSeen) = true
  · rw [if_pos hnotable]
    exact h.turned hnotable rfl
  · rw [if_neg hnotable]
    exact h.silent (Bool.not_eq_true _ ▸ hnotable)

end Peer

namespace Session

variable {c : Settings} {address : String} {verbose : Bool} {start : Moment}
  {steps : List Board.Step}

/-- **A peer's state can be told from its notices alone.** A monitor is built from any configuration
of peers with valid networks, and lives through any steps with a clock that shows zones. Each of its
checks hands over what it owes for the peers, to the journal and to the queue.

On a verbose monitor the notices of a peer form a chain from down to the name of its state. On a
quiet one they are of up and of down in turn, the last one is of the verdict that the peer stands
by, and they keep the distances that the peer's thresholds ask for. These are counted in checks that
got past the peer; checks that ended in front of it only make them longer. -/
theorem record_tells_state (hc : c.Buildable) (haddress : address ≠ "") (carrier : Carrier)
    (steady : Binary64) (hstart : start.Aware) (hsteps : ∀ step ∈ steps, step.Aware) :
    ∃ m, Monitor.build c address verbose (.ok carrier) = .ok m ∧
    let s := Session.mk m start steady
    (∀ u ∈ s.atChecks steps, u.Dispatches u.postings) ∧
    ∀ i e, c.peers[i]? = some e → ∃ p, (s.after steps).peer? i = some p ∧
      let told := (s.record i steps).reduceOption
      (verbose = true → Told Notice.Continues told ∧ p.debouncer.name = .ok (standing told)) ∧
      (verbose = false → Told Notice.Turns told ∧
        (standing told = "Up" ↔ p.debouncer.phase = .up ∨ ∃ n, p.debouncer.phase = .maybeDown n) ∧
        Spaced (Debouncer.quorum (Roster.threshold e.upThreshold c.upThreshold))
          (Debouncer.quorum (Roster.threshold e.downThreshold c.downThreshold))
          (s.record i steps)) := by
  obtain ⟨m, hbuild, hb⟩ := Monitor.exists_build hc haddress verbose carrier
  have haware : (m.board.course start).Aware steps := ⟨hstart, hsteps⟩
  refine ⟨m, hbuild, dispatches_atChecks hb haware steady, ?_⟩
  intro i e he
  obtain ⟨p, hpe, hp⟩ := hb.exists_peer he
  have hd := Roster.debouncer_of_peerOf hpe
  refine ⟨(m.board.course start).peerAfter steps i p, ?_, ?_, ?_⟩
  · rw [(follows_of_build hb haware steady).peer?_eq,
      show (m.board.course start).roster.peers[i]? = some p from hp]
    rfl
  · -- a verbose monitor posts every move
    rintro rfl
    have htraced : Traced _ _ := record_induction hb haware steady hp
      (by rw [hd]; exact ⟨.nil, rfl, Debouncer.legible_start _⟩)
      fun _ q now h hlegible => Peer.traced_check h hlegible
    exact ⟨htraced.chain, Debouncer.name_eq_ok_iff.mpr ⟨htraced.legible, htraced.state.symm⟩⟩
  · -- a quiet one posts the verdicts, and the record tells no more than these
    rintro rfl
    have hproclaimed : Proclaimed p.debouncer.limits _ _ := record_induction hb haware steady hp
      (by rw [hd]; exact ⟨rfl, .nil, rfl, .nil _ _, nofun, trivial⟩)
      fun _ q now h _ => Peer.proclaimed_check h c.timeout now
    rw [hd] at hproclaimed
    refine ⟨hproclaimed.chain, ?_, hproclaimed.spaced⟩
    rw [hproclaimed.state, ← Phase.verdict_eq_true_iff]
    split
    next hverdict => exact iff_of_true rfl hverdict
    next hverdict => exact iff_of_false (by decide) hverdict

/-- A peer that comes up with two sightings and goes down with three misses. -/
theorem record_tells_outage :
    let c : Settings := ⟨2, 3, "1s", "5s", "", ⟨"slack", []⟩, [⟨"A", "10.0.0.0/24", 0, 0, ""⟩]⟩
    let start : Moment := ⟨0, some .utc⟩
    let steps : List Board.Step := [.packet "10.0.0.5", .check, .check, .check,
      .clock ⟨5000000, some .utc⟩, .check, .check, .check]
    ∃ m, Monitor.build c "0.0.0.0" false (.ok (.rehearsal [] 0)) = .ok m ∧
      let record := (Session.mk m start (.finite false 0)).record 0 steps
      record.map (Option.map fun posting => posting.notice.newState) =
        [none, some "Up", none, none, none, some "Down"] ∧
      Told Notice.Turns record.reduceOption ∧ Spaced 2 3 record := by
  intro c start steps
  let range : Net.Range := .around (.ofQuad 167772160) 24 (by decide)
  have hc : c.Buildable := .of_singleton range rfl (by decide)
  obtain ⟨m, hbuild, -, hpeers⟩ := @record_tells_state c "0.0.0.0" false start steps hc (by decide)
    (.rehearsal [] 0) (.finite false 0) rfl (by decide)
  obtain ⟨p, -, -, hquiet⟩ := hpeers 0 _ rfl
  obtain ⟨htold, -, hspaced⟩ := hquiet rfl
  obtain rfl := Monitor.eq_around_of_build hbuild
    [⟨"A", range, none, .start ⟨2, 3⟩, none, .free⟩] rfl
  exact ⟨_, hbuild, by decide +kernel, htold, hspaced⟩

end Session
end EchoWatch
