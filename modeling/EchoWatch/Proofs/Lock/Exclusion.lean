import EchoWatch.Lock
import Mathlib.Data.List.Induction
/-!
# The lock keeps count of its actors

A lock is three numbers, and they are changed at different points: when an actor asks, when it is
let in, at once or after it has slept, and when its block ends. Here they are compared with the
actors themselves, who may take their steps in any order.

* **`Tested`**, **`Departed`**: all that can come of a test of the lock and of a departure.
* **`Sound`**: the numbers are the counts that they stand for, a writer is alone, and the lock is
  closed to everyone who sleeps. Each of the steps keeps this (`Sound.step`).
* **`run_exclusive`**: what the numbers say after any run.
-/

namespace EchoWatch.Lock

/-! ## Numbers and admission

How the three numbers change when an actor enters or leaves, and what a change does to those who are
not admitted. These are small enough to be looked through role by role. -/

section Numbers

variable {l : Lock} {role r : Role}

theorem readers_enter :
    ((l.unqueue role).enter role).readers = l.readers + (decide (role = .reader)).toNat := by
  cases role <;> rfl

/-- A writer that enters waits no longer. -/
theorem writersWaiting_enter :
    ((l.unqueue role).enter role).writersWaiting =
      l.writersWaiting - (decide (role = .writer)).toNat := by
  cases role <;> rfl

theorem writing_enter :
    ((l.unqueue role).enter role).writing = (l.writing || decide (role = .writer)) := by
  cases role <;> simp [unqueue, enter]

theorem readers_leave :
    (l.leave role).readers = l.readers - (decide (role = .reader)).toNat := by
  cases role <;> rfl

theorem writing_leave : (l.leave role).writing = (l.writing && decide (role = .reader)) := by
  cases role <;> simp [leave]

theorem writing_of_admits (h : l.admits role = true) : l.writing = false := by
  cases role <;> simp_all [admits]

theorem readers_of_admits_writer (h : l.admits .writer = true) : l.readers = 0 := by
  simp_all [admits]

theorem admits_queue (h : l.admits r = false) : (l.queue role).admits r = false := by
  cases role <;> cases r <;> simp_all [admits, queue]

/-- Whoever enters finds no one else admitted but readers, who were admitted before as well. -/
theorem admits_enter (hopen : l.admits role = true) (h : l.admits r = false) :
    ((l.unqueue role).enter role).admits r = false := by
  cases role <;> cases r <;> simp_all [admits, unqueue, enter]

/-- A departure that rouses no one leaves readers inside. -/
theorem admits_leave (hquiet : (l.leave role).rouses role = false) (h : l.admits r = false) :
    (l.leave role).admits r = false := by
  cases role <;> cases r <;> simp_all [admits, leave, rouses]

end Numbers

namespace Hall

/-! ## Counts

Each step changes one actor of the list, or rouses all of them. `count_set` and `count_map_rouse`
say what becomes of a count then. -/

/-- When one entry of a list changes, a count changes by what the entry adds to it. -/
theorem countP_set_add {α : Type} {l : List α} {i : Nat} {a : α} (h : l[i]? = some a)
    (p : α → Bool) (b : α) : (l.set i b).countP p + (p a).toNat = l.countP p + (p b).toNat := by
  obtain ⟨hi, rfl⟩ := List.getElem?_eq_some_iff.mp h
  have hle : (p l[i]).toNat ≤ l.countP p := by
    cases hp : p l[i] with
    | false => simp
    | true => exact List.countP_pos_iff.mpr ⟨l[i], List.getElem_mem hi, hp⟩
  rw [List.countP_set hi]
  cases hp : p l[i] <;> cases hb : p b <;> simp_all

/-- How many actors have a role and one of the given stances. -/
def count (actors : List Actor) (role : Role) (p : Stance → Bool) : Nat :=
  actors.countP fun a => a.role = role && p a.stance

/-- The count after one actor has taken another stance. -/
theorem count_set {actors : List Actor} {i : Nat} {a : Actor} (ha : actors[i]? = some a)
    (role : Role) (p : Stance → Bool) (stance : Stance) :
    count (actors.set i { a with stance := stance }) role p +
        (a.role = role && p a.stance).toNat =
      count actors role p + (a.role = role && p stance).toNat :=
  countP_set_add ha _ _

/-- A rousing leaves every count as it is that does not tell the roused from the sleeping. -/
theorem count_map_rouse (actors : List Actor) (role : Role) {p : Stance → Bool}
    (hp : p .roused = p .asleep) :
    count (actors.map Actor.rouse) role p = count actors role p := by
  have hrouse : ∀ stance : Stance, p stance.rouse = p stance := by
    intro stance
    cases stance with
    | asleep => exact hp
    | roused | inside | gone => rfl
  unfold count
  rw [List.countP_map]
  congr 1
  funext a
  show (decide (a.role = role) && p a.stance.rouse) = _
  rw [hrouse]

theorem count_pos_iff {actors : List Actor} {role : Role} {p : Stance → Bool} :
    0 < count actors role p ↔ ∃ a ∈ actors, a.role = role ∧ p a.stance = true := by
  simp [count, List.countP_pos_iff]

/-- How many actors of a role are inside. -/
def inside (h : Hall) (role : Role) : Nat :=
  count h.actors role fun stance => stance = .inside

/-- How many actors of a role have asked and were not let in yet. -/
def queued (h : Hall) (role : Role) : Nat :=
  count h.actors role Stance.waits

/-! ## What a test and a departure can do -/

theorem standing?_eq_some_iff {h : Hall} {stance : Stance} {i : Nat} {a : Actor} :
    h.standing? stance i = some a ↔ h.actors[i]? = some a ∧ a.stance = stance := by
  simp [standing?, Option.filter_eq_some_iff]

/-- A step that finds no such actor finds one with another stance, or none. -/
theorem ne_of_standing?_eq_none {h : Hall} {stance : Stance} {i : Nat}
    (hnone : h.standing? stance i = none) {a : Actor} (ha : h.actors[i]? = some a) :
    a.stance ≠ stance := by
  intro hstance
  have hsome := standing?_eq_some_iff.mpr ⟨ha, hstance⟩
  rw [hnone] at hsome
  cases hsome

/-- What becomes of a hall when the actor at a place tests the lock. -/
inductive Tested (h : Hall) (i : Nat) (h' : Hall) : Prop where
  | elsewhere (hno : ∀ {a}, h.actors[i]? = some a → a.stance ≠ .roused) (hsame : h' = h)
  | refused {a : Actor} (ha : h.actors[i]? = some a) (hroused : a.stance = .roused)
      (hclosed : h.lock.admits a.role = false) (hlock : h'.lock = h.lock)
      (hactors : h'.actors = h.actors.set i { a with stance := .asleep })
  | admitted {a : Actor} (ha : h.actors[i]? = some a) (hroused : a.stance = .roused)
      (hopen : h.lock.admits a.role = true)
      (hlock : h'.lock = (h.lock.unqueue a.role).enter a.role)
      (hactors : h'.actors = h.actors.set i { a with stance := .inside })

/-- Every test is one of these. -/
theorem tested (h : Hall) (i : Nat) : Tested h i (h.test i) := by
  unfold test
  cases hstanding : h.standing? .roused i with
  | none => exact .elsewhere (ne_of_standing?_eq_none hstanding) rfl
  | some a =>
    obtain ⟨ha, hroused⟩ := standing?_eq_some_iff.mp hstanding
    dsimp only
    split
    next hopen => exact .admitted ha hroused hopen rfl rfl
    next hclosed => exact .refused ha hroused (Bool.eq_false_iff.mpr hclosed) rfl rfl

/-- What becomes of a hall when the actor at a place ends its block. -/
inductive Departed (h : Hall) (i : Nat) (h' : Hall) : Prop where
  | elsewhere (hno : ∀ {a}, h.actors[i]? = some a → a.stance ≠ .inside) (hsame : h' = h)
  | quiet {a : Actor} (ha : h.actors[i]? = some a) (hinside : a.stance = .inside)
      (hquiet : (h.lock.leave a.role).rouses a.role = false)
      (hlock : h'.lock = h.lock.leave a.role)
      (hactors : h'.actors = h.actors.set i { a with stance := .gone })
  | rousing {a : Actor} (ha : h.actors[i]? = some a) (hinside : a.stance = .inside)
      (hlock : h'.lock = h.lock.leave a.role)
      (hactors : h'.actors = (h.actors.set i { a with stance := .gone }).map Actor.rouse)

/-- Every departure is one of these. -/
theorem departed (h : Hall) (i : Nat) : Departed h i (h.leaveAt i) := by
  unfold leaveAt
  cases hstanding : h.standing? .inside i with
  | none => exact .elsewhere (ne_of_standing?_eq_none hstanding) rfl
  | some a =>
    obtain ⟨ha, hinside⟩ := standing?_eq_some_iff.mp hstanding
    cases hrouses : (h.lock.leave a.role).rouses a.role with
    | true => exact .rousing ha hinside rfl (by simp only [hrouses, if_true])
    | false => exact .quiet ha hinside hrouses rfl (by simp [hrouses])

/-! ## The invariant

The last field is what keeps wake-ups from being lost: no one sleeps before an open lock. Whoever
opens it to a sleeper therefore has to rouse, and whoever falls asleep has just found it closed. -/

/-- What holds of a hall between any two steps. -/
structure Sound (h : Hall) : Prop where
  readers : h.lock.readers = h.inside .reader
  writing : h.lock.writing.toNat = h.inside .writer
  waiting : h.lock.writersWaiting = h.queued .writer
  alone : h.lock.writing = true → h.lock.readers = 0
  closed : ∀ a ∈ h.actors, a.stance = .asleep → h.lock.admits a.role = false

namespace Sound

theorem empty : Hall.empty.Sound :=
  ⟨rfl, rfl, rfl, nofun, nofun⟩

variable {h h' : Hall} {i : Nat} (hs : h.Sound)
include hs

/-- An arrival adds one who waits: it is counted among the waiting if it is a writer. -/
theorem arrive (name : String) (role : Role) : (h.arrive name role).Sound := by
  -- who arrives is on its way: neither inside nor asleep
  have hinside : ∀ r, (h.arrive name role).inside r = h.inside r := by
    intro r
    simp [Hall.arrive, inside, count]
  have hqueued : (h.arrive name role).queued .writer =
      h.queued .writer + (decide (role = .writer)).toNat := by
    cases role <;> simp [Hall.arrive, queued, count, Stance.waits]
  refine ⟨?_, ?_, ?_, ?_, ?_⟩
  · rw [hinside, ← hs.readers]
    cases role <;> rfl
  · rw [hinside, ← hs.writing]
    cases role <;> rfl
  · rw [hqueued, ← hs.waiting]
    cases role <;> rfl
  · have halone := hs.alone
    cases role <;> exact halone
  · intro a ha hasleep
    rcases List.mem_append.mp ha with hold | hnew
    · exact admits_queue (hs.closed a hold hasleep)
    · rw [List.mem_singleton.mp hnew] at hasleep
      cases hasleep

/-- A test keeps the invariant: whoever is refused waits on, and whoever enters is counted inside
instead. -/
theorem tested (ht : Tested h i h') : h'.Sound := by
  cases ht with
  | elsewhere hno hsame => exact hsame ▸ hs
  | @refused a ha hroused hclosed hlock hactors =>
    -- who goes to sleep waits on
    have hinside : ∀ r, h'.inside r = h.inside r := by
      intro r
      simpa [inside, hactors, hroused] using
        count_set ha r (fun stance => stance = .inside) .asleep
    have hqueued : h'.queued .writer = h.queued .writer := by
      simpa [queued, hactors, hroused, Stance.waits] using
        count_set ha .writer Stance.waits .asleep
    refine ⟨?_, ?_, ?_, ?_, ?_⟩
    · rw [hlock, hinside, hs.readers]
    · rw [hlock, hinside, hs.writing]
    · rw [hlock, hqueued, hs.waiting]
    · rw [hlock]
      exact hs.alone
    · intro b hb hasleep
      rw [hlock]
      rcases List.mem_or_eq_of_mem_set (hactors ▸ hb) with hold | rfl
      · exact hs.closed b hold hasleep
      · exact hclosed
  | @admitted a ha hroused hopen hlock hactors =>
    have hinside : ∀ r, h'.inside r = h.inside r + (decide (a.role = r)).toNat := by
      intro r
      simpa [inside, hactors, hroused] using
        count_set ha r (fun stance => stance = .inside) .inside
    have hqueued : h'.queued .writer + (decide (a.role = .writer)).toNat = h.queued .writer := by
      simpa [queued, hactors, hroused, Stance.waits] using
        count_set ha .writer Stance.waits .inside
    have hfree := writing_of_admits hopen
    refine ⟨?_, ?_, ?_, ?_, ?_⟩
    · rw [hlock, readers_enter, hinside, hs.readers]
    · rw [hlock, writing_enter, hinside, ← hs.writing, hfree]
      simp
    · rw [hlock, writersWaiting_enter, hs.waiting]
      omega
    · rw [hlock, writing_enter, readers_enter, hfree]
      -- a writer that enters has found no readers inside
      intro hwriter
      have hrole : a.role = .writer := by simpa using hwriter
      rw [hrole] at hopen ⊢
      simpa using readers_of_admits_writer hopen
    · intro b hb hasleep
      rw [hlock]
      rcases List.mem_or_eq_of_mem_set (hactors ▸ hb) with hold | rfl
      · exact admits_enter hopen (hs.closed b hold hasleep)
      · cases hasleep

/-- A departure takes one actor from those inside, whomever it rouses. -/
theorem left {a : Actor} (hlock : h'.lock = h.lock.leave a.role)
    (hinside : ∀ r, h'.inside r + (decide (a.role = r)).toNat = h.inside r)
    (hqueued : h'.queued .writer = h.queued .writer)
    (hclosed : ∀ b ∈ h'.actors, b.stance = .asleep → h'.lock.admits b.role = false) :
    h'.Sound := by
  refine ⟨?_, ?_, ?_, ?_, hclosed⟩
  · have hreader := hinside .reader
    rw [hlock, readers_leave, hs.readers]
    omega
  · have hwriter := hinside .writer
    have hone := Bool.toNat_le h.lock.writing
    rw [← hs.writing] at hwriter
    rw [hlock, writing_leave]
    cases hrole : a.role with
    | reader => simpa [hrole] using hwriter.symm
    | writer =>
      -- who leaves was counted, and the lock knew of one writer at most
      simp only [hrole, decide_true, Bool.toNat_true] at hwriter
      simp
      omega
  · rw [hlock, hqueued, ← hs.waiting]
    cases a.role <;> rfl
  · rw [hlock, writing_leave, readers_leave, Bool.and_eq_true]
    rintro ⟨hwriting, -⟩
    rw [hs.alone hwriting, Nat.zero_sub]

/-- A departure keeps it: either readers stay inside, or everyone is roused. -/
theorem departed (hd : Departed h i h') : h'.Sound := by
  cases hd with
  | elsewhere hno hsame => exact hsame ▸ hs
  | @quiet a ha hstance hquiet hlock hactors =>
    refine hs.left hlock ?_ ?_ ?_
    · intro r
      simpa [inside, hactors, hstance] using count_set ha r (fun stance => stance = .inside) .gone
    · simpa [queued, hactors, hstance, Stance.waits] using
        count_set ha .writer Stance.waits .gone
    · intro b hb hasleep
      rw [hlock]
      rcases List.mem_or_eq_of_mem_set (hactors ▸ hb) with hold | rfl
      · exact admits_leave hquiet (hs.closed b hold hasleep)
      · cases hasleep
  | @rousing a ha hstance hlock hactors =>
    refine hs.left hlock ?_ ?_ ?_
    · intro r
      rw [inside, hactors, count_map_rouse _ _ rfl]
      simpa [inside, hstance] using count_set ha r (fun stance => stance = .inside) .gone
    · rw [queued, hactors, count_map_rouse _ _ rfl]
      simpa [queued, hstance, Stance.waits] using count_set ha .writer Stance.waits .gone
    · intro b hb hasleep
      -- nobody sleeps on
      obtain ⟨c, -, rfl⟩ := List.mem_map.mp (hactors ▸ hb)
      have hawake : ∀ stance : Stance, stance.rouse ≠ .asleep := by
        intro stance
        cases stance <;> decide
      exact absurd hasleep (hawake c.stance)

/-- **One step** keeps the counts, whoever takes it. -/
theorem step (s : Step) : (h.step s).Sound := by
  cases s with
  | ask name role => exact (hs.arrive name role).tested (Hall.tested _ _)
  | retest i => exact hs.tested (Hall.tested h i)
  | leave i ending => exact hs.departed (Hall.departed h i)

end Sound

/-! ## Who came -/

/-- Who an actor is and what it came for, however far it has come. -/
def caller (a : Actor) : String × Role :=
  (a.name, a.role)

def callers (h : Hall) : List (String × Role) :=
  h.actors.map caller

def Step.caller? : Step → Option (String × Role)
  | .ask name role => some (name, role)
  | _ => none

section Callers

variable {h h' : Hall} {i : Nat}

/-- Whatever stance it takes, an actor stays who it is. -/
theorem map_caller_set {actors : List Actor} {a : Actor} (ha : actors[i]? = some a)
    (stance : Stance) :
    (actors.set i { a with stance := stance }).map caller = actors.map caller := by
  obtain ⟨hi, rfl⟩ := List.getElem?_eq_some_iff.mp ha
  have hcaller : caller { actors[i] with stance := stance } = caller actors[i] := rfl
  rw [List.map_set, hcaller, ← List.getElem_map caller, List.set_getElem_self]
  rwa [List.length_map]

/-- A test brings and takes nobody. -/
theorem callers_tested (ht : Tested h i h') : h'.callers = h.callers := by
  cases ht with
  | elsewhere hno hsame => rw [hsame]
  | refused ha hroused hclosed hlock hactors | admitted ha hroused hopen hlock hactors =>
    rw [callers, hactors, map_caller_set ha, callers]

/-- A departure takes nobody from the list: who leaves is gone, and stays in it. -/
theorem callers_departed (hd : Departed h i h') : h'.callers = h.callers := by
  cases hd with
  | elsewhere hno hsame => rw [hsame]
  | quiet ha hinside hquiet hlock hactors => rw [callers, hactors, map_caller_set ha, callers]
  | rousing ha hinside hlock hactors =>
    rw [callers, hactors, List.map_map]
    exact map_caller_set ha _

/-- Only who asks is new. -/
theorem callers_step (h : Hall) (s : Step) :
    (h.step s).callers = h.callers ++ s.caller?.toList := by
  cases s with
  | ask name role =>
    have harrive : (h.arrive name role).callers = h.callers ++ [(name, role)] := by
      simp [callers, arrive, caller]
    exact (callers_tested (tested _ _)).trans harrive
  | retest i => exact (callers_tested (tested h i)).trans (List.append_nil _).symm
  | leave i ending => exact (callers_departed (departed h i)).trans (List.append_nil _).symm

end Callers

/-! ## Every run -/

theorem run_append (h : Hall) (steps later : List Step) :
    h.run (steps ++ later) = (h.run steps).run later :=
  List.foldl_append

theorem run_snoc (h : Hall) (steps : List Step) (s : Step) :
    h.run (steps ++ [s]) = (h.run steps).step s :=
  h.run_append steps [s]

/-- **Every run keeps the counts.** Induction on the steps from their end. -/
theorem Sound.run {h : Hall} (hs : h.Sound) (steps : List Step) : (h.run steps).Sound := by
  induction steps using List.reverseRecOn with
  | nil => exact hs
  | append_singleton steps s ih =>
    rw [run_snoc]
    exact ih.step s

/-- The actors are those who asked, in this order. -/
theorem callers_run (steps : List Step) :
    (empty.run steps).callers = steps.filterMap Step.caller? := by
  induction steps using List.reverseRecOn with
  | nil => rfl
  | append_singleton steps s ih =>
    rw [run_snoc, callers_step, ih, List.filterMap_append]
    cases h : s.caller? <;> simp [h]

/-- A writer that is inside has no one beside it. -/
theorem Sound.eq_of_inside {h : Hall} (hs : h.Sound) {i j : Nat} {a b : Actor}
    (ha : h.actors[i]? = some a) (hb : h.actors[j]? = some b) (hwriter : a.role = .writer)
    (hain : a.stance = .inside) (hbin : b.stance = .inside) : i = j := by
  have hset : count (h.actors.set i { a with stance := .gone }) .writer
      (fun stance => stance = .inside) + 1 = h.inside .writer := by
    simpa [inside, hwriter, hain] using
      count_set ha .writer (fun stance => stance = .inside) .gone
  have hwriting : h.lock.writing = true := by
    have hnum := hs.writing
    cases hw : h.lock.writing with
    | true => rfl
    | false =>
      rw [hw, Bool.toNat_false] at hnum
      omega
  have hone : h.inside .writer = 1 := by rw [← hs.writing, hwriting, Bool.toNat_true]
  have hnone : h.inside .reader = 0 := by rw [← hs.readers, hs.alone hwriting]
  by_contra hne
  cases hrole : b.role with
  | reader =>
    have hpos : 0 < h.inside .reader :=
      count_pos_iff.mpr ⟨b, List.mem_of_getElem? hb, hrole, decide_eq_true hbin⟩
    omega
  | writer =>
    -- the other writer would be counted without this one
    have hmem : b ∈ h.actors.set i { a with stance := .gone } :=
      List.mem_of_getElem? ((List.getElem?_set_ne hne).trans hb)
    have hpos : 0 < count (h.actors.set i { a with stance := .gone }) .writer
        (fun stance => stance = .inside) :=
      count_pos_iff.mpr ⟨b, hmem, hrole, decide_eq_true hbin⟩
    omega

/-- **The numbers are right.** After any steps the actors are those who asked, in this order. The
lock counts the readers inside and the writers that wait, it knows of the one writer inside, and
that writer is alone there. -/
theorem run_exclusive (steps : List Step) :
    let h := empty.run steps
    h.callers = steps.filterMap Step.caller? ∧
      h.lock.readers = h.inside .reader ∧
      (h.lock.writing = true ↔ h.inside .writer = 1) ∧
      (∀ (i j : Nat) (a b : Actor), h.actors[i]? = some a → h.actors[j]? = some b →
        a.role = .writer → a.stance = .inside → b.stance = .inside → i = j) ∧
      h.lock.writersWaiting = h.queued .writer := by
  intro h
  have hs : h.Sound := Sound.empty.run steps
  refine ⟨callers_run steps, hs.readers, ?_, fun i j a b => hs.eq_of_inside, hs.waiting⟩
  rw [← hs.writing]
  cases h.lock.writing <;> decide

end Hall
end EchoWatch.Lock
