import EchoWatch.Proofs.Lock.Exclusion
/-!
# Nobody sleeps for nothing, and readers give way

Only two things rouse the sleepers of a hall: the last reader leaves, or the writer does. A writer
that is let in has one writer fewer waiting and tells nobody. Still no sleeper is forgotten, because
whatever opens the lock to a sleeper comes with a rousing (`Sound.closed`).

* **`settled_settle`**: the tests of those on their way settle a hall.
* **`Sound.exists_inside_of_writer`**, **`Sound.exists_writer_of_reader`**: what keeps a sleeper
  out.
* **`Waits.step`**: to be let in takes a lock that is open to the role. While a writer waits it is
  closed to readers.
* **`run_wakes_in_turn`**: both for any run.
-/

namespace EchoWatch.Lock.Hall

/-- No actor is on its way to the lock: everyone who came is inside, asleep or gone. -/
def Settled (h : Hall) : Prop :=
  ∀ a ∈ h.actors, a.stance ≠ .roused

instance (h : Hall) : Decidable h.Settled :=
  inferInstanceAs (Decidable (∀ a ∈ h.actors, a.stance ≠ .roused))

theorem getElem?_of_set {h h' : Hall} {i : Nat} {a b : Actor} (ha : h.actors[i]? = some a)
    (hactors : h'.actors = h.actors.set i b) : h'.actors[i]? = some b := by
  rw [hactors, List.getElem?_set_self (List.getElem?_eq_some_iff.mp ha).1]

/-- Who is on its way after a test was so before, and is not the one who made the test. -/
theorem Tested.roused {h h' : Hall} {i j : Nat} (ht : Tested h j h') {a : Actor}
    (ha : h'.actors[i]? = some a) (hroused : a.stance = .roused) :
    j ≠ i ∧ h.actors[i]? = some a := by
  cases ht with
  | elsewhere hno hsame =>
    rw [hsame] at ha
    refine ⟨?_, ha⟩
    rintro rfl
    exact hno ha hroused
  | refused hb _ _ _ hactors | admitted hb _ _ _ hactors =>
    have hne : j ≠ i := by
      rintro rfl
      rw [getElem?_of_set hb hactors] at ha
      obtain rfl := Option.some.inj ha
      cases hroused
    rw [hactors, List.getElem?_set_ne hne] at ha
    exact ⟨hne, ha⟩

/-- Every hall can be settled: those on their way need only take their own tests. -/
theorem settled_settle (h : Hall) :
    h.settle = h.run ((List.range h.actors.length).map .retest) ∧ h.settle.Settled := by
  refine ⟨by rw [settle, run, List.foldl_map]; rfl, ?_⟩
  -- the tests pass the places one by one and leave nobody behind on its way
  have hpassed : ∀ n i a, ((List.range n).foldl test h).actors[i]? = some a →
      a.stance = .roused → n ≤ i ∧ h.actors[i]? = some a := by
    intro n
    induction n with
    | zero => exact fun i a ha _ => ⟨Nat.zero_le i, ha⟩
    | succ n ih =>
      intro i a ha hroused
      rw [List.range_succ, List.foldl_append, List.foldl_cons, List.foldl_nil] at ha
      obtain ⟨hne, hbefore⟩ := (tested _ n).roused ha hroused
      obtain ⟨hle, hfirst⟩ := ih i a hbefore hroused
      exact ⟨by omega, hfirst⟩
  intro a ha hroused
  obtain ⟨i, hi⟩ := List.getElem?_of_mem ha
  obtain ⟨hle, hfirst⟩ := hpassed _ i a hi hroused
  have hlt := (List.getElem?_eq_some_iff.mp hfirst).1
  omega

/-! ## What keeps a sleeper out

A sleeper finds the lock closed. The number that closes it counts somebody, and this is whom the
sleeper waits for. -/

section Sleepers

variable {h : Hall} (hs : h.Sound)
include hs

/-- If readers are counted, one is inside. -/
theorem Sound.exists_reader_inside (hreaders : h.lock.readers ≠ 0) :
    ∃ a ∈ h.actors, a.role = .reader ∧ a.stance = .inside := by
  rw [hs.readers] at hreaders
  obtain ⟨a, ha, hrole, hinside⟩ := count_pos_iff.mp (Nat.pos_of_ne_zero hreaders)
  exact ⟨a, ha, hrole, of_decide_eq_true hinside⟩

/-- If the lock is being written, a writer is inside. -/
theorem Sound.exists_writer_inside (hwriting : h.lock.writing = true) :
    ∃ a ∈ h.actors, a.role = .writer ∧ a.stance = .inside := by
  have hpos : 0 < h.inside .writer := by
    rw [← hs.writing, hwriting]
    exact Nat.one_pos
  obtain ⟨a, ha, hrole, hinside⟩ := count_pos_iff.mp hpos
  exact ⟨a, ha, hrole, of_decide_eq_true hinside⟩

/-- If writers are counted as waiting, one is waiting. -/
theorem Sound.exists_writer_waiting (hwaiting : h.lock.writersWaiting ≠ 0) :
    ∃ a ∈ h.actors, a.role = .writer ∧ a.stance.waits = true := by
  rw [hs.waiting] at hwaiting
  exact count_pos_iff.mp (Nat.pos_of_ne_zero hwaiting)

/-- Someone keeps a writer asleep. -/
theorem Sound.exists_inside_of_writer {a : Actor} (ha : a ∈ h.actors) (hrole : a.role = .writer)
    (hasleep : a.stance = .asleep) : ∃ b ∈ h.actors, b.stance = .inside := by
  have hclosed := hs.closed a ha hasleep
  rw [hrole] at hclosed
  -- a writer inside closes the lock to everyone, else only readers inside do
  by_cases hwriting : h.lock.writing = true
  · obtain ⟨b, hb, -, hinside⟩ := hs.exists_writer_inside hwriting
    exact ⟨b, hb, hinside⟩
  · have hreaders : h.lock.readers ≠ 0 := by simpa [admits, hwriting] using hclosed
    obtain ⟨b, hb, -, hinside⟩ := hs.exists_reader_inside hreaders
    exact ⟨b, hb, hinside⟩

/-- A writer keeps a reader asleep: one that is inside, or one that waits and sleeps itself. -/
theorem Sound.exists_writer_of_reader (hsettled : h.Settled) {a : Actor} (ha : a ∈ h.actors)
    (hrole : a.role = .reader) (hasleep : a.stance = .asleep) :
    ∃ b ∈ h.actors, b.role = .writer ∧ (b.stance = .inside ∨ b.stance = .asleep) := by
  have hclosed := hs.closed a ha hasleep
  rw [hrole] at hclosed
  -- a writer inside closes it, else only writers that wait do
  by_cases hwriting : h.lock.writing = true
  · obtain ⟨b, hb, hwriter, hinside⟩ := hs.exists_writer_inside hwriting
    exact ⟨b, hb, hwriter, Or.inl hinside⟩
  · have hwaiting : h.lock.writersWaiting ≠ 0 := by simpa [admits, hwriting] using hclosed
    obtain ⟨b, hb, hwriter, hwaits⟩ := hs.exists_writer_waiting hwaiting
    have hawake := hsettled b hb
    refine ⟨b, hb, hwriter, Or.inr ?_⟩
    cases hstance : b.stance with
    | asleep => rfl
    | roused => exact absurd hstance hawake
    | inside | gone => simp [hstance, Stance.waits] at hwaits

end Sleepers

/-! ## Places

From here on one actor is followed through a run. Its name need not be its own, so that it is known
by its place. -/

/-- The actor at a place has the given role, has asked and was not let in yet. -/
def Waits (h : Hall) (role : Role) (i : Nat) : Prop :=
  ∃ a, h.actors[i]? = some a ∧ a.role = role ∧ a.stance.waits = true

/-- The actor at a place was let in; it may have left since. -/
def Admitted (h : Hall) (i : Nat) : Prop :=
  ∃ a, h.actors[i]? = some a ∧ (a.stance = .inside ∨ a.stance = .gone)

/-- Whoever waits was not let in. -/
theorem Waits.not_admitted {h : Hall} {role : Role} {i : Nat} (hw : h.Waits role i) :
    ¬ h.Admitted i := by
  obtain ⟨a, ha, -, hwaits⟩ := hw
  rintro ⟨b, hb, hstance⟩
  obtain rfl : a = b := Option.some.inj (ha.symm.trans hb)
  rcases hstance with hstance | hstance <;> simp [hstance, Stance.waits] at hwaits

/-- While a writer waits, the lock is closed to readers. -/
theorem Sound.admits_reader {h : Hall} (hs : h.Sound) {w : Nat} (hw : h.Waits .writer w) :
    h.lock.admits .reader = false := by
  obtain ⟨a, ha, hrole, hwaits⟩ := hw
  have hpos : 0 < h.lock.writersWaiting := by
    rw [hs.waiting]
    exact count_pos_iff.mpr ⟨a, List.mem_of_getElem? ha, hrole, hwaits⟩
  have hne : h.lock.writersWaiting ≠ 0 := by omega
  simp [admits, hne]

namespace Waits

variable {h h' : Hall} {role : Role} {i j : Nat} (hw : h.Waits role i)
include hw

theorem lt_length : i < h.actors.length := by
  obtain ⟨a, ha, -⟩ := hw
  exact (List.getElem?_eq_some_iff.mp ha).1

/-- An arrival changes nothing for those who wait. -/
theorem arrive (name : String) (r : Role) : (h.arrive name r).Waits role i := by
  obtain ⟨a, ha, hrole, hwaits⟩ := hw
  have hi := (List.getElem?_eq_some_iff.mp ha).1
  exact ⟨a, (List.getElem?_append_left hi).trans ha, hrole, hwaits⟩

theorem of_set (b : Actor) (hne : j ≠ i) (hactors : h'.actors = h.actors.set j b) :
    h'.Waits role i := by
  obtain ⟨a, ha, hrole, hwaits⟩ := hw
  refine ⟨a, ?_, hrole, hwaits⟩
  rw [hactors, List.getElem?_set_ne hne, ha]

/-- A test lets in no one but the actor who makes it, and the lock is open to it. -/
theorem tested (ht : Tested h j h') :
    h'.Waits role i ∨ i = j ∧ h.lock.admits role = true ∧ h'.Admitted i := by
  cases ht with
  | elsewhere hno hsame => exact Or.inl (hsame ▸ hw)
  | @refused a ha hroused hclosed hlock hactors =>
    -- the actor that is followed made the test itself, or somebody else did
    by_cases hji : j = i
    · subst hji
      obtain ⟨b, hb, hrole, -⟩ := hw
      obtain rfl : a = b := Option.some.inj (ha.symm.trans hb)
      exact Or.inl ⟨_, getElem?_of_set ha hactors, hrole, rfl⟩
    · exact Or.inl (hw.of_set _ hji hactors)
  | @admitted a ha hroused hopen hlock hactors =>
    by_cases hji : j = i
    · subst hji
      obtain ⟨b, hb, hrole, -⟩ := hw
      obtain rfl : a = b := Option.some.inj (ha.symm.trans hb)
      exact Or.inr ⟨rfl, hrole ▸ hopen, _, getElem?_of_set ha hactors, Or.inl rfl⟩
    · exact Or.inl (hw.of_set _ hji hactors)

/-- Departures let nobody in. -/
theorem departed (hd : Departed h j h') : h'.Waits role i := by
  -- who departs is inside, and so it is another one
  have hne : ∀ {b}, h.actors[j]? = some b → b.stance = .inside → j ≠ i := by
    rintro b hb hinside rfl
    exact hw.not_admitted ⟨b, hb, Or.inl hinside⟩
  cases hd with
  | elsewhere hno hsame => exact hsame ▸ hw
  | quiet ha hinside hquiet hlock hactors => exact hw.of_set _ (hne ha hinside) hactors
  | @rousing b hb hinside hlock hactors =>
    obtain ⟨a, ha, hrole, hwaits⟩ := hw
    refine ⟨a.rouse, ?_, hrole, ?_⟩
    · rw [hactors, List.getElem?_map, List.getElem?_set_ne (hne hb hinside), ha, Option.map_some]
    · show a.stance.rouse.waits = true
      cases hstance : a.stance <;> simp_all [Stance.waits, Stance.rouse]

/-- Who asks lets in no one else. -/
theorem ask (name : String) (r : Role) : (h.ask name r).Waits role i := by
  rcases (hw.arrive name r).tested (Hall.tested _ h.actors.length) with hwaits | ⟨rfl, -⟩
  · exact hwaits
  · exact absurd hw.lt_length (Nat.lt_irrefl _)

/-- **One step** lets an actor in only through a lock that is open to its role. -/
theorem step (s : Step) :
    (h.step s).Waits role i ∨ h.lock.admits role = true ∧ (h.step s).Admitted i := by
  cases s with
  | ask name r => exact Or.inl (hw.ask name r)
  | retest j => exact (hw.tested (Hall.tested h j)).imp_right fun hin => hin.2
  | leave j ending => exact Or.inl (hw.departed (Hall.departed h j))

end Waits

/-! ## Readers give way -/

section GiveWay

variable {h : Hall} (hs : h.Sound)
include hs

/-- A reader that asks while a writer waits has to wait as well. -/
theorem Sound.waits_ask {w : Nat} (hw : h.Waits .writer w) (name : String) :
    (h.step (.ask name .reader)).Waits .reader h.actors.length := by
  -- it has come to the end of the list, and its first test finds the lock closed
  have hcame : (h.arrive name .reader).Waits .reader h.actors.length :=
    ⟨_, List.getElem?_concat_length, rfl, rfl⟩
  rcases hcame.tested (Hall.tested _ h.actors.length) with hwaits | ⟨-, hopen, -⟩
  · exact hwaits
  · have hclosed := (hs.arrive name .reader).admits_reader (hw.arrive name .reader)
    exact absurd hopen (by simp [hclosed])

/-- A reader that waits behind some writers does so until one of them is let in. Induction on the
steps from their end: as long as all these writers wait, the lock is closed to readers. -/
theorem Sound.waits_until {r : Nat} (hr : h.Waits .reader r) {writers : Nat → Prop}
    (hwriters : ∀ w, writers w → h.Waits .writer w) (hsome : ∃ w, writers w)
    (later : List Step) :
    ((h.run later).Waits .reader r ∧ ∀ w, writers w → (h.run later).Waits .writer w) ∨
      ∃ before, before <+: later ∧ (h.run before).Waits .reader r ∧
        ∃ w, writers w ∧ (h.run before).Admitted w := by
  induction later using List.reverseRecOn with
  | nil => exact Or.inl ⟨hr, hwriters⟩
  | append_singleton later s ih =>
    rcases ih with ⟨hreader, hall⟩ | ⟨before, hbefore, hfound⟩
    · rw [run_snoc]
      obtain ⟨w₀, hw₀⟩ := hsome
      have hclosed := (hs.run later).admits_reader (hall w₀ hw₀)
      have hreader' : ((h.run later).step s).Waits .reader r := by
        rcases hreader.step s with hwaits | ⟨hopen, -⟩
        · exact hwaits
        · exact absurd hopen (by simp [hclosed])
      by_cases hwait : ∀ w, writers w → ((h.run later).step s).Waits .writer w
      · exact Or.inl ⟨hreader', hwait⟩
      · -- this very step has let one of the writers in, and it found the lock closed to the reader
        simp only [not_forall] at hwait
        obtain ⟨w, hw, hnot⟩ := hwait
        have hin := ((hall w hw).step s).resolve_left hnot
        refine Or.inr ⟨later ++ [s], List.prefix_refl _, ?_, w, hw, ?_⟩
        · rw [run_snoc]
          exact hreader'
        · rw [run_snoc]
          exact hin.2
    · exact Or.inr ⟨before, hbefore.trans (List.prefix_append _ _), hfound⟩

end GiveWay

/-! ## Every run -/

/-- **Wake-ups and turns.** In any reached hall where nobody is on its way, somebody keeps the
sleepers out: whoever is inside a writer's way, and a writer, inside or asleep, a reader's. And a
reader that asks while writers wait is not let in before one of these writers was. -/
theorem run_wakes_in_turn (steps : List Step) :
    let h := empty.run steps
    (h.Settled →
      ((∃ a ∈ h.actors, a.role = .writer ∧ a.stance = .asleep) →
        ∃ a ∈ h.actors, a.stance = .inside) ∧
      ((∃ a ∈ h.actors, a.role = .reader ∧ a.stance = .asleep) →
        ∃ a ∈ h.actors, a.role = .writer ∧ (a.stance = .inside ∨ a.stance = .asleep)) ∧
      ((∃ a ∈ h.actors, a.stance = .asleep) → ∃ a ∈ h.actors, a.stance = .inside)) ∧
    ∀ (name : String) (later : List Step),
      let reader := h.actors.length
      let after (taken : List Step) := empty.run (steps ++ .ask name .reader :: taken)
      (∃ w, h.Waits .writer w) → (after later).Admitted reader →
        ∃ before, before <+: later ∧ ¬ (after before).Admitted reader ∧
          ∃ w, h.Waits .writer w ∧ (after before).Admitted w := by
  intro h
  have hs : h.Sound := Sound.empty.run steps
  refine ⟨?_, ?_⟩
  · intro hsettled
    have hwriter : (∃ a ∈ h.actors, a.role = .writer ∧ a.stance = .asleep) →
        ∃ a ∈ h.actors, a.stance = .inside := by
      rintro ⟨a, ha, hrole, hasleep⟩
      exact hs.exists_inside_of_writer ha hrole hasleep
    have hreader : (∃ a ∈ h.actors, a.role = .reader ∧ a.stance = .asleep) →
        ∃ a ∈ h.actors, a.role = .writer ∧ (a.stance = .inside ∨ a.stance = .asleep) := by
      rintro ⟨a, ha, hrole, hasleep⟩
      exact hs.exists_writer_of_reader hsettled ha hrole hasleep
    refine ⟨hwriter, hreader, ?_⟩
    rintro ⟨a, ha, hasleep⟩
    cases hrole : a.role with
    | writer => exact hwriter ⟨a, ha, hrole, hasleep⟩
    | reader =>
      obtain ⟨b, hb, hrole', hinside | hasleep'⟩ := hreader ⟨a, ha, hrole, hasleep⟩
      · exact ⟨b, hb, hinside⟩
      · exact hwriter ⟨b, hb, hrole', hasleep'⟩
  · intro name later reader after hsome hin
    -- the reader has asked, and from here on its place is followed
    have hafter : ∀ taken, after taken = (h.step (.ask name .reader)).run taken :=
      fun taken => empty.run_append steps (.ask name .reader :: taken)
    obtain ⟨w₀, hw₀⟩ := hsome
    have hwriters : ∀ w, h.Waits .writer w → (h.step (.ask name .reader)).Waits .writer w :=
      fun w hw => hw.ask name .reader
    rcases (hs.step (.ask name .reader)).waits_until (hs.waits_ask hw₀ name) hwriters ⟨w₀, hw₀⟩
      later with ⟨hwaits, -⟩ | ⟨before, hbefore, hwaits, w, hw, hlet⟩
    · exact absurd (hafter later ▸ hin) hwaits.not_admitted
    · refine ⟨before, hbefore, ?_, w, hw, ?_⟩
      · rw [hafter]
        exact hwaits.not_admitted
      · rw [hafter]
        exact hlet

/-- Two writers that slept behind a reader are roused by its failing block, and one of them is let
in. The other one keeps the next reader out and goes first, although that reader tests the lock
first. -/
theorem run_wakes_in_turn_of_two_writers :
    let arrivals : List Step :=
      [.ask "A" .reader, .ask "B" .writer, .ask "C" .writer, .leave 0 .failed]
    let later : List Step :=
      [.leave 1 .finished, .retest 3, .retest 2, .leave 2 .finished, .retest 3]
    let h := (empty.run arrivals).settle
    let after (taken : List Step) := (h.step (.ask "D" .reader)).run taken
    ¬ (empty.run arrivals).Settled ∧ h.Settled ∧ (∃ a ∈ h.actors, a.stance = .inside) ∧
      h.Waits .writer 2 ∧ (after later).Admitted 3 ∧
      ∃ before, before <+: later ∧ ¬ (after before).Admitted 3 ∧
        ∃ w, h.Waits .writer w ∧ (after before).Admitted w := by
  intro arrivals later h after
  have hroused : ¬ (empty.run arrivals).Settled := by decide
  have hasleep : ∃ a ∈ h.actors, a.stance = .asleep := by decide
  have hlength : h.actors.length = 3 := by decide
  have hwaits : h.Waits .writer 2 := ⟨⟨"C", .writer, .asleep⟩, by decide, rfl, rfl⟩
  have hadmitted : (after later).Admitted 3 := ⟨⟨"D", .reader, .inside⟩, by decide, .inl rfl⟩
  obtain ⟨hrun, hsettled⟩ := settled_settle (empty.run arrivals)
  -- the settled hall is one that a run comes to
  obtain ⟨tests, hh⟩ : ∃ tests, empty.run (arrivals ++ tests) = h := by
    refine ⟨(List.range (empty.run arrivals).actors.length).map .retest, ?_⟩
    rw [run_append]
    exact hrun.symm
  have hafter (taken : List Step) :
      empty.run (arrivals ++ tests ++ .ask "D" .reader :: taken) = after taken := by
    rw [run_append, hh]
    rfl
  obtain ⟨hsleepers, hturns⟩ := run_wakes_in_turn (arrivals ++ tests)
  have hturn := hturns "D" later
  simp only [hafter, hh, hlength] at hsleepers hturn
  exact ⟨hroused, hsettled, (hsleepers hsettled).2.2 hasleep, hwaits, hadmitted,
    hturn ⟨2, hwaits⟩ hadmitted⟩

end EchoWatch.Lock.Hall
