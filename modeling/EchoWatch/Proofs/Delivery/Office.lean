import EchoWatch.Delivery.Office
import EchoWatch.Proofs.Delivery.Outbox
import Mathlib.Data.List.Induction
/-!
# Who is accepted at the office

Callers post and close at an office in any order, and its crew delivers meanwhile. Which notices are
accepted is read off the moves alone (`PassedInTime`): a poster needs a webhook and has to pass the
lock before anybody closes.

* **`change`**: all that one move can do to an office; every later fact about a step goes by its
  cases.
* **`run_post`**, **`run_close`**, **`run_work`**: threads that nobody comes between do what the
  calls of the outbox do.
* **`Counter.sound_run`**: after any moves the counter, which is what the lock guards, has accepted
  the posters who passed in time and refused nobody.
-/

namespace EchoWatch
namespace Outbox

/-- What a poster came with. -/
def Poster.call (p : Poster) : Option String × Notice :=
  (p.webhook, p.notice)

namespace Office

/-! ## Moves and what they say

Some facts are about the moves alone: who was posted, and whether it was passed on before anybody
closed. They grow with the moves, from their end. -/

/-- The call of a poster who arrives. -/
def Move.call? : Move → Option (Option String × Notice)
  | .post webhook n => some (webhook, n)
  | _ => none

/-- Whether a caller ends accepting. -/
def Move.closes : Move → Bool
  | .close _ => true
  | _ => false

/-- Whether it is a worker who moves. -/
def Move.byCrew : Move → Bool
  | .take | .finish _ _ => true
  | _ => false

/-- The calls of the posters, in the order of their arrival. -/
def calls (moves : List Move) : List (Option String × Notice) :=
  moves.filterMap Move.call?

/-- The job that the poster at a position brings, if its peer has a webhook. -/
def job? (moves : List Move) (i : Nat) : Option Job :=
  (calls moves)[i]?.bind fun call => call.1.map fun target => ⟨target, call.2⟩

/-- The poster at a position brings a job, and passed the lock before anybody closed. -/
def PassedInTime (moves : List Move) (i : Nat) : Prop :=
  ∃ before, before ++ [.enter i] <+: moves ∧ (∀ move ∈ before, move.closes = false) ∧
    (job? before i).isSome = true

/-- The last move is the last call, if it is one. -/
theorem calls_snoc (moves : List Move) (move : Move) :
    calls (moves ++ [move]) = calls moves ++ move.call?.toList := by
  unfold calls
  rw [List.filterMap_append]
  cases h : move.call? <;> simp [h]

/-- A job stays what it is. -/
theorem job?_of_append {moves : List Move} {i : Nat} {job : Job} (h : job? moves i = some job)
    (later : List Move) : job? (moves ++ later) i = some job := by
  obtain ⟨call, hcall, hjob⟩ := Option.bind_eq_some_iff.mp h
  have hi : i < (calls moves).length := (List.getElem?_eq_some_iff.mp hcall).1
  have happend : calls (moves ++ later) = calls moves ++ calls later := List.filterMap_append
  unfold job?
  rw [happend, List.getElem?_append_left hi, hcall]
  exact hjob

/-- Only jobs are passed on. -/
theorem PassedInTime.isSome_job? {moves : List Move} {i : Nat} (h : PassedInTime moves i) :
    (job? moves i).isSome = true := by
  obtain ⟨before, ⟨later, rfl⟩, -, hjob⟩ := h
  obtain ⟨job, hjob⟩ := Option.isSome_iff_exists.mp hjob
  rw [List.append_assoc, job?_of_append hjob]
  rfl

/-- A job is passed on in time by the last move or was so before. -/
theorem passedInTime_snoc {moves : List Move} {move : Move} {i : Nat} :
    PassedInTime (moves ++ [move]) i ↔ PassedInTime moves i ∨
      (move = .enter i ∧ (∀ m ∈ moves, m.closes = false) ∧ (job? moves i).isSome = true) := by
  constructor
  · rintro ⟨before, hbefore, hopen, hjob⟩
    rcases List.prefix_concat_iff.mp hbefore with heq | hold
    · obtain ⟨rfl, hlast⟩ := List.append_inj' heq rfl
      exact Or.inr ⟨(List.singleton_inj.mp hlast).symm, hopen, hjob⟩
    · exact Or.inl ⟨before, hold, hopen, hjob⟩
  · rintro (⟨before, hbefore, hopen, hjob⟩ | ⟨rfl, hopen, hjob⟩)
    · exact ⟨before, hbefore.trans (List.prefix_append _ _), hopen, hjob⟩
    · exact ⟨moves, List.prefix_refl _, hopen, hjob⟩

theorem run_snoc (o : Office) (moves : List Move) (move : Move) :
    o.run (moves ++ [move]) = (o.run moves).step move := by
  simp [run]

theorem run_append (o : Office) (moves later : List Move) :
    o.run (moves ++ later) = (o.run moves).run later := by
  simp [run]

/-! ## What a move can do

A move is decided by where its thread stands and by what the outbox is like. `Change` lists what can
come of one, so that no proof below has to look into `step` again. -/

/-- What a move makes of an office; `change` says that this is all. -/
inductive Change (o : Office) : Move → Office → Prop where
  | arrived (webhook : Option String) (n : Notice) :
      Change o (.post webhook n)
        { o with
          posters := o.posters ++
            [⟨webhook, n, if webhook.isSome then .announced else .returned⟩]
          journal := o.journal ++ [announcement n] }
  | accepted {i : Nat} {target : String} {n : Notice} (hopen : o.outbox.closed = false)
      (hposter : o.posters[i]? = some ⟨some target, n, .announced⟩) :
      Change o (.enter i)
        { o with
          outbox := { o.outbox with queue := o.outbox.queue ++ [⟨target, n⟩] }
          posters := o.posters.set i ⟨some target, n, .returned⟩
          accepted := o.accepted ++ [i] }
  | dropped {i : Nat} {target : String} {n : Notice} (hclosed : o.outbox.closed = true)
      (hposter : o.posters[i]? = some ⟨some target, n, .announced⟩) :
      Change o (.enter i)
        { o with
          posters := o.posters.set i ⟨some target, n, .returned⟩
          journal := o.journal ++ [Outbox.dropped n] }
  | elsewhere {i : Nat}
      (hposter : ∀ target n, o.posters[i]? ≠ some ⟨some target, n, .announced⟩) :
      Change o (.enter i) o
  | closed (wait : Bool) :
      Change o (.close wait)
        { o with outbox := o.outbox.stopAccepting, closers := o.closers ++ [⟨wait, .locked⟩] }
  | shut {j : Nat} {wait : Bool} (hcloser : o.closers[j]? = some ⟨wait, .locked⟩) :
      Change o (.shut j)
        { o with
          outbox := o.outbox.shutQueue
          closers := o.closers.set j ⟨wait, if wait then .waiting else .returned⟩ }
  | left {j : Nat} {wait : Bool} (hcloser : o.closers[j]? = some ⟨wait, .waiting⟩)
      (hsettled : o.Settled) :
      Change o (.leave j) { o with closers := o.closers.set j ⟨wait, .returned⟩ }
  | took {job : Job} {rest : List Job} (hidle : o.inHand.length < o.crew)
      (hqueue : o.outbox.queue = job :: rest) :
      Change o .take
        { o with
          outbox := { o.outbox with queue := rest }
          taken := o.taken ++ [job]
          inHand := o.inHand ++ [job] }
  | finished {k : Nat} {job : Job} (hjob : o.inHand[k]? = some job) (outcome : Outcome) :
      Change o (.finish k outcome)
        { o with
          inHand := o.inHand.eraseIdx k
          ended := o.ended ++ [(job, outcome)]
          journal := o.journal ++
            (verdict o.outbox.carrier.className job outcome).map (Entry.on .notify) }
  /-- Nobody can move so. -/
  | still {move : Move} (hcall : move.call? = none) (hcloses : move.closes = false)
      (henter : ∀ i, move ≠ .enter i) : Change o move o

/-- A poster enters the outbox if it was announced, and is accepted unless the outbox is closed. -/
theorem change_enter {o : Office} (h : o.outbox.Orderly) (i : Nat) :
    Change o (.enter i) (o.step (.enter i)) := by
  simp only [step]
  split
  next target n hposter =>
    have haccept := h.accept_eq ⟨target, n⟩
    -- an open outbox accepts, a closed one drops the job
    cases hclosed : o.outbox.closed with
    | true =>
      rw [hclosed, if_pos rfl] at haccept
      simp only [enter, haccept]
      exact .dropped hclosed hposter
    | false =>
      rw [hclosed, if_neg (by decide)] at haccept
      simp only [enter, haccept]
      rw [← hclosed]
      exact .accepted hclosed hposter
  next hposter => exact .elsewhere fun target n h => hposter target n h

/-- **Every move is one of these**, as far as the outbox is orderly. -/
theorem change {o : Office} (h : o.outbox.Orderly) (move : Move) : Change o move (o.step move) := by
  cases move with
  -- each move looks for its thread, and does nothing where it finds none
  | post webhook n => exact .arrived webhook n
  | enter i => exact change_enter h i
  | close wait => exact .closed wait
  | shut j =>
    simp only [step]
    split
    next wait hcloser => exact .shut hcloser
    next => exact .still rfl rfl nofun
  | leave j =>
    simp only [step]
    split
    next wait hcloser =>
      by_cases hsettled : o.Settled
      · rw [if_pos hsettled]
        exact .left hcloser hsettled
      · rw [if_neg hsettled]
        exact .still rfl rfl nofun
    next => exact .still rfl rfl nofun
  | take =>
    simp only [step, Outbox.take]
    by_cases hidle : o.inHand.length < o.crew
    · rw [if_pos hidle]
      cases hqueue : o.outbox.queue with
      | nil => exact .still rfl rfl nofun
      | cons job rest => exact .took hidle hqueue
    · rw [if_neg hidle]
      exact .still rfl rfl nofun
  | finish k outcome =>
    simp only [step]
    split
    next job hjob => exact .finished hjob outcome
    next => exact .still rfl rfl nofun

/-! ## Undisturbed calls

A thread whose moves nobody comes between does what the calls of the outbox do. -/

/-- A posting that nobody disturbs does what posting to an outbox does. -/
theorem run_post {o : Office} (h : o.outbox.Orderly) (webhook : Option String) (n : Notice) :
    let o' := o.run [.post webhook n, .enter o.posters.length]
    ∃ entries, o.outbox.post webhook n = (.ok o'.outbox, entries) ∧
      o'.journal = o.journal ++ entries := by
  cases webhook with
  | none => exact ⟨[announcement n], by simp [run, step, Outbox.post]⟩
  | some target =>
    have haccept := h.accept_eq ⟨target, n⟩
    cases hclosed : o.outbox.closed with
    | true =>
      rw [hclosed, if_pos rfl] at haccept
      exact ⟨[announcement n, dropped n], by simp [run, step, Outbox.post, enter, haccept]⟩
    | false =>
      rw [hclosed, if_neg (by decide)] at haccept
      exact ⟨[announcement n], by simp [run, step, Outbox.post, enter, haccept]⟩

theorem run_close (o : Office) (wait : Bool) :
    (o.run [.close wait, .shut o.closers.length]).outbox = o.outbox.close := by
  simp [run, step, Outbox.close]

/-- A worker does not see the carrier change, which comes to its end by itself. -/
theorem run_work {o : Office} (hidle : o.inHand = []) (hcrew : 0 < o.crew) {sent : Sent}
    {entries : List Entry} {outbox : Outbox} (h : o.outbox.work = some (sent, entries, outbox)) :
    let o' := o.run [.take, .finish 0 sent.outcome]
    o'.outbox.queue = outbox.queue ∧ o'.ended = o.ended ++ [(sent.job, sent.outcome)] ∧
      ∃ said told, entries = said ++ told ∧ o'.journal = o.journal ++ told := by
  cases hqueue : o.outbox.queue with
  | nil => simp [work, Outbox.take, hqueue] at h
  | cons job rest =>
    simp only [work, Outbox.take, hqueue, Option.map_some, Option.some.injEq, Prod.mk.injEq] at h
    obtain ⟨rfl, rfl, rfl⟩ := h
    refine ⟨?_, ?_, ?_⟩
    · simp [run, step, Outbox.take, hqueue, hidle, hcrew]
    · simp [run, step, Outbox.take, hqueue, hidle, hcrew]
    · rw [List.map_append]
      exact ⟨_, _, rfl, by simp [run, step, Outbox.take, hqueue, hidle, hcrew]⟩

/-! ## The counter -/

/-- What the lock of an office guards. -/
structure Counter where
  closed : Bool
  shut : Bool
  posters : List Poster
  accepted : List Nat
  /-- How many callers have closed. -/
  closing : Nat

def counter (o : Office) : Counter :=
  ⟨o.outbox.closed, o.outbox.shut, o.posters, o.accepted, o.closers.length⟩

/-- The counter agrees with the moves so far. -/
structure Counter.Sound (moves : List Move) (c : Counter) : Prop where
  closed : c.closed = true ↔ ∃ move ∈ moves, move.closes = true
  shut : c.shut = true → c.closed = true
  closing : c.closing ≠ 0 → c.closed = true
  posters : c.posters.map Poster.call = calls moves
  unrefused : ∀ p ∈ c.posters, ∀ e, p.stage ≠ .refused e
  announced : ∀ i p, c.posters[i]? = some p → p.stage = .announced → i ∉ c.accepted
  returned : ∀ i p, c.posters[i]? = some p → p.stage = .returned → p.webhook.isSome = true →
    c.closed = true ∨ i ∈ c.accepted
  nodup : c.accepted.Nodup
  accepted : ∀ i, i ∈ c.accepted ↔ PassedInTime moves i

/-- A place in a list with one entry put in is that of the entry, or an old one. -/
theorem of_getElem?_set {α : Type} {l : List α} {a b : α} {i j : Nat}
    (h : (l.set i a)[j]? = some b) : (j = i ∧ b = a) ∨ (j ≠ i ∧ l[j]? = some b) := by
  by_cases hij : j = i
  · subst hij
    rw [List.getElem?_set_self'] at h
    obtain ⟨_, _, hb⟩ := Option.map_eq_some_iff.mp h
    exact Or.inl ⟨rfl, hb.symm⟩
  · rw [List.getElem?_set_ne (Ne.symm hij)] at h
    exact Or.inr ⟨hij, h⟩

/-- A poster goes on with the same call. -/
theorem map_call_set {posters : List Poster} {i : Nat} {p : Poster} (hp : posters[i]? = some p)
    (stage : Poster.Stage) :
    (posters.set i { p with stage := stage }).map Poster.call = posters.map Poster.call := by
  obtain ⟨hi, rfl⟩ := List.getElem?_eq_some_iff.mp hp
  have hcall : Poster.call { posters[i] with stage := stage } = Poster.call posters[i] := rfl
  rw [List.map_set, hcall, ← List.getElem_map Poster.call, List.set_getElem_self]
  rwa [List.length_map]

namespace Counter.Sound

variable {moves : List Move} {c : Counter} (h : c.Sound moves)
include h

/-- The job of a poster is made of its target and its notice. -/
theorem job?_eq (i : Nat) :
    job? moves i = c.posters[i]?.bind fun p => p.webhook.map fun target => ⟨target, p.notice⟩ := by
  rw [job?, ← h.posters, List.getElem?_map]
  cases c.posters[i]? <;> rfl

/-- Who was accepted has come. -/
theorem lt_of_accepted {i : Nat} (hi : i ∈ c.accepted) : i < c.posters.length := by
  have hjob := ((h.accepted i).mp hi).isSome_job?
  rw [h.job?_eq i] at hjob
  by_contra hge
  rw [List.getElem?_eq_none (Nat.not_lt.mp hge)] at hjob
  cases hjob

/-- The outbox is open as long as nobody has closed it. -/
theorem open_iff : c.closed = false ↔ ∀ move ∈ moves, move.closes = false := by
  rw [← Bool.not_eq_true, h.closed]
  push Not
  exact forall₂_congr fun move _ => by rw [ne_eq, Bool.not_eq_true]

/-- A move at which nobody arrives, passes the lock or closes leaves the counter in order. -/
theorem idle {move : Move} (hcall : move.call? = none) (hcloses : move.closes = false)
    (henter : ∀ i, move ≠ .enter i) : c.Sound (moves ++ [move]) where
  closed := by simp [h.closed, hcloses]
  shut := h.shut
  closing := h.closing
  posters := by rw [h.posters, calls_snoc, hcall, Option.toList_none, List.append_nil]
  unrefused := h.unrefused
  announced := h.announced
  returned := h.returned
  nodup := h.nodup
  accepted i := by
    rw [h.accepted, passedInTime_snoc]
    exact (or_iff_left fun hlast => henter i hlast.1).symm

/-- A poster that arrives is announced and not yet accepted. -/
theorem arrive (webhook : Option String) (n : Notice) :
    Counter.Sound (moves ++ [.post webhook n])
      { c with posters := c.posters ++
        [⟨webhook, n, if webhook.isSome then .announced else .returned⟩] } where
  closed := by simp [h.closed, Move.closes]
  shut := h.shut
  closing := h.closing
  posters := by
    rw [List.map_append, h.posters, calls_snoc]
    rfl
  unrefused := by
    intro p hp e
    rcases List.mem_append.mp hp with hold | hnew
    · exact h.unrefused p hold e
    · obtain rfl := List.mem_singleton.mp hnew
      cases webhook <;> simp
  announced := by
    intro i p hp hstage hi
    rw [List.getElem?_append_left (h.lt_of_accepted hi)] at hp
    exact h.announced i p hp hstage hi
  returned := by
    intro i p hp hstage hwebhook
    by_cases hi : i < c.posters.length
    · rw [List.getElem?_append_left hi] at hp
      exact h.returned i p hp hstage hwebhook
    · -- the poster who has just arrived has not returned, having a webhook
      rw [List.getElem?_append_right (Nat.not_lt.mp hi)] at hp
      rw [List.getElem?_singleton, Option.ite_none_right_eq_some, Option.some.injEq] at hp
      obtain ⟨-, rfl⟩ := hp
      simp only at hwebhook hstage
      rw [if_pos hwebhook] at hstage
      cases hstage
  nodup := h.nodup
  accepted i := by
    rw [h.accepted, passedInTime_snoc]
    exact (or_iff_left fun hlast => nomatch hlast.1).symm

/-- A poster who passes the lock is accepted unless somebody has closed. -/
theorem pass {i : Nat} {target : String} {n : Notice}
    (hposter : c.posters[i]? = some ⟨some target, n, .announced⟩) :
    Counter.Sound (moves ++ [.enter i])
      { c with
        posters := c.posters.set i ⟨some target, n, .returned⟩
        accepted := if c.closed then c.accepted else c.accepted ++ [i] } := by
  -- the poster joins the accepted ones unless the outbox is closed
  have hmem : ∀ j, (j ∈ if c.closed then c.accepted else c.accepted ++ [i]) ↔
      j ∈ c.accepted ∨ c.closed = false ∧ j = i := by
    intro j
    cases c.closed <;> simp
  refine ⟨?_, h.shut, h.closing, ?_, ?_, ?_, ?_, ?_, ?_⟩
  · simp [h.closed, Move.closes]
  · refine (map_call_set hposter .returned).trans ?_
    rw [h.posters, calls_snoc]
    exact (List.append_nil _).symm
  · intro p hp e
    rcases List.mem_or_eq_of_mem_set hp with hold | rfl
    · exact h.unrefused p hold e
    · exact nofun
  · intro j p hp hstage hj
    rcases of_getElem?_set hp with ⟨rfl, rfl⟩ | ⟨hne, hp⟩
    · cases hstage
    · rcases (hmem j).mp hj with hold | ⟨-, rfl⟩
      · exact h.announced j p hp hstage hold
      · exact hne rfl
  · intro j p hp hstage hwebhook
    rcases of_getElem?_set hp with ⟨rfl, rfl⟩ | ⟨-, hp⟩
    · by_cases hclosed : c.closed = true
      · exact Or.inl hclosed
      · exact Or.inr ((hmem j).mpr (Or.inr ⟨Bool.not_eq_true _ ▸ hclosed, rfl⟩))
    · exact (h.returned j p hp hstage hwebhook).imp_right fun hold => (hmem j).mpr (Or.inl hold)
  · -- it was only announced so far, hence it is not accepted twice
    have hnew : i ∉ c.accepted := h.announced i _ hposter rfl
    cases c.closed with
    | true => exact h.nodup
    | false => exact List.nodup_append.mpr ⟨h.nodup, List.pairwise_singleton _ i, by grind⟩
  · intro j
    have hjob : (job? moves i).isSome = true := by
      rw [h.job?_eq, hposter]
      rfl
    rw [hmem, passedInTime_snoc, h.accepted, h.open_iff]
    refine or_congr_right ⟨?_, ?_⟩
    · rintro ⟨hopen, rfl⟩
      exact ⟨rfl, hopen, hjob⟩
    · rintro ⟨hlast, hopen, -⟩
      injection hlast with hj
      exact ⟨hopen, hj.symm⟩

/-- Who is not waiting for the lock with a job does not pass it again. -/
theorem elsewhere {i : Nat}
    (hposter : ∀ target n, c.posters[i]? ≠ some ⟨some target, n, .announced⟩) :
    c.Sound (moves ++ [.enter i]) where
  closed := by simp [h.closed, Move.closes]
  shut := h.shut
  closing := h.closing
  posters := by
    rw [h.posters, calls_snoc]
    exact (List.append_nil _).symm
  unrefused := h.unrefused
  announced := h.announced
  returned := h.returned
  nodup := h.nodup
  accepted j := by
    rw [h.accepted, passedInTime_snoc]
    refine (or_iff_left_of_imp ?_).symm
    rintro ⟨hlast, hopen, hjob⟩
    injection hlast with hj
    subst hj
    rw [h.job?_eq] at hjob
    cases hp : c.posters[i]? with
    | none => rw [hp] at hjob; cases hjob
    | some p =>
      obtain ⟨webhook, n, stage⟩ := p
      rw [hp] at hjob
      cases webhook with
      | none => cases hjob
      | some target =>
        have hmem : (⟨some target, n, stage⟩ : Poster) ∈ c.posters := List.mem_of_getElem? hp
        cases stage with
        | announced => exact absurd hp (hposter target n)
        | refused e => exact absurd rfl (h.unrefused _ hmem e)
        | returned =>
          -- the poster has been at the lock before, and nobody has closed since
          have hopen' : c.closed ≠ true := by rw [h.open_iff.mpr hopen]; decide
          exact (h.accepted i).mp ((h.returned i _ hp rfl rfl).resolve_left hopen')

omit h in
theorem new (carrier : Carrier) (crew : Nat) :
    Counter.Sound [] (Office.new carrier crew).counter where
  closed := by simp [Office.new, counter, Outbox.new]
  shut := nofun
  closing := fun h => absurd rfl h
  posters := rfl
  unrefused := nofun
  announced := nofun
  returned := nofun
  nodup := List.nodup_nil
  accepted i := by
    refine iff_of_false List.not_mem_nil ?_
    rintro ⟨before, hprefix, -⟩
    exact List.append_ne_nil_of_right_ne_nil before (List.cons_ne_nil _ _)
      (List.prefix_nil.mp hprefix)

/-- After a close nobody is accepted any more. -/
theorem close (wait : Bool) :
    Counter.Sound (moves ++ [.close wait]) { c with closed := true, closing := c.closing + 1 } where
  closed := by simp [Move.closes]
  shut _ := rfl
  closing _ := rfl
  posters := by
    rw [h.posters, calls_snoc]
    exact (List.append_nil _).symm
  unrefused := h.unrefused
  announced := h.announced
  returned _ _ _ _ _ := Or.inl rfl
  nodup := h.nodup
  accepted i := by
    rw [h.accepted, passedInTime_snoc]
    exact (or_iff_left fun hlast => nomatch hlast.1).symm

/-- The queue is shut by those who have closed before. -/
theorem shutQueue (hclosing : c.closing ≠ 0) : Counter.Sound moves { c with shut := true } :=
  { h with shut := fun _ => h.closing hclosing }

end Counter.Sound

/-- The counter stays in order whatever is done. -/
theorem Counter.Sound.step {moves : List Move} {o : Office} (h : o.counter.Sound moves)
    (move : Move) : (o.step move).counter.Sound (moves ++ [move]) := by
  have hchange := change h.shut move
  generalize o.step move = o' at hchange ⊢
  cases hchange with
  | arrived webhook n => exact h.arrive webhook n
  | accepted hopen hposter =>
    have hpass := h.pass hposter
    rw [if_neg (show ¬ o.counter.closed = true from Bool.not_eq_true _ ▸ hopen)] at hpass
    exact hpass
  | dropped hclosed hposter =>
    have hpass := h.pass hposter
    rw [if_pos (show o.counter.closed = true from hclosed)] at hpass
    exact hpass
  | elsewhere hposter => exact h.elsewhere hposter
  | closed wait =>
    simpa [counter, stopAccepting] using h.close wait
  | @shut j wait hcloser =>
    -- who shuts the queue has closed before
    have hclosing : o.counter.closing ≠ 0 :=
      Nat.ne_of_gt (Nat.zero_lt_of_lt (List.getElem?_eq_some_iff.mp hcloser).1)
    have hidle : o.counter.Sound (moves ++ [.shut j]) := h.idle rfl rfl nofun
    simpa [counter, Outbox.shutQueue] using hidle.shutQueue hclosing
  | @left j wait hcloser _ =>
    have hidle : o.counter.Sound (moves ++ [.leave j]) := h.idle rfl rfl nofun
    simpa [counter] using hidle
  | took hidle hqueue => exact h.idle rfl rfl nofun
  | finished hjob outcome => exact h.idle rfl rfl nofun
  | still hcall hcloses henter => exact h.idle hcall hcloses henter

/-- **Every run keeps the counter.** Induction on the moves from their end. -/
theorem Counter.sound_run (carrier : Carrier) (crew : Nat) (moves : List Move) :
    ((new carrier crew).run moves).counter.Sound moves := by
  induction moves using List.reverseRecOn with
  | nil => exact .new carrier crew
  | append_singleton moves move ih =>
    rw [run_snoc]
    exact ih.step move

end Office
end Outbox
end EchoWatch
