import EchoWatch.Proofs.Delivery.Office
import Mathlib.Data.List.Perm.Basic
/-!
# Every accepted notice is delivered once

The lock decides which notices are accepted; the crew delivers these and no others. Its law is one
of conservation: a job that was accepted is in the queue, in a worker's hand or among the deliveries
that ended, and in one of them only.

* **`Workroom`**: this law, what one worker alone adds to it, and when a closer who waits may leave.
* **`Chronicle`**: what the journal has of the posters and of the deliveries that ended.
* **`exists_clearing`**: the crew by itself can end all deliveries, however each of them ends.
* **`Diligent.settled`**: and it does so, unless it idles while something is left to do.
* **`run_delivers_accepted`**: all of it, for every order of the moves of all threads.
-/

namespace EchoWatch

/-- Whether a delivery came upon an error. -/
def Outcome.raises : Outcome → Bool
  | .raised _ => true
  | _ => false

namespace Outbox
namespace Office

/-! ## Jobs -/

/-- The workers agree with the moves so far. -/
structure Workroom (crew : Nat) (moves : List Move) (o : Office) : Prop where
  crew_eq : o.crew = crew
  places : o.inHand.length ≤ crew
  line : (o.taken ++ o.outbox.queue).map some = o.accepted.map (job? moves)
  shared : (o.ended.map Prod.fst ++ o.inHand).Perm o.taken
  alone : crew = 1 → o.ended.map Prod.fst ++ o.inHand = o.taken
  waited : ∀ closer ∈ o.closers, closer.wait = true → closer.stage = .returned → o.Settled

/-- A job that was accepted stays what it was. -/
theorem Counter.Sound.jobs_append {moves : List Move} {c : Counter} (h : c.Sound moves)
    (later : List Move) : c.accepted.map (job? (moves ++ later)) = c.accepted.map (job? moves) := by
  refine List.map_congr_left fun i hi => ?_
  obtain ⟨job, hjob⟩ := Option.isSome_iff_exists.mp ((h.accepted i).mp hi).isSome_job?
  rw [hjob, job?_of_append hjob]

namespace Workroom

/-- A new office has nothing to do. -/
theorem new (carrier : Carrier) (crew : Nat) : Workroom crew [] (Office.new carrier crew) where
  crew_eq := rfl
  places := Nat.zero_le crew
  line := rfl
  shared := .refl _
  alone _ := rfl
  waited := nofun

/-- One move takes a job at most from one place to the next. -/
theorem step {crew : Nat} {moves : List Move} {o : Office} (h : Workroom crew moves o)
    (hc : o.counter.Sound moves) (move : Move) :
    Workroom crew (moves ++ [move]) (o.step move) := by
  have hline : (o.taken ++ o.outbox.queue).map some = o.accepted.map (job? (moves ++ [move])) :=
    h.line.trans (hc.jobs_append [move]).symm
  have hchange := change hc.shut move
  generalize o.step move = o' at hchange ⊢
  cases hchange with
  | arrived _ _ | dropped _ _ | elsewhere _ | still _ _ _ => exact { h with line := hline }
  | @accepted i target n hopen hposter =>
    refine { h with line := ?_, waited := ?_ }
    · have hjob : job? moves i = some ⟨target, n⟩ := by
        rw [hc.job?_eq]
        exact congrArg (Option.bind · _) hposter
      rw [← List.append_assoc, List.map_append, hline, List.map_append, List.map_singleton,
        List.map_singleton, job?_of_append hjob]
    · -- whoever closes ends accepting first
      intro closer hcloser
      have hclosed := hc.closing (Nat.ne_of_gt (List.length_pos_of_mem hcloser))
      exact absurd (hopen.symm.trans hclosed) (by decide)
  | closed wait =>
    refine { h with line := hline, waited := ?_ }
    intro closer hcloser hwait hstage
    rcases List.mem_append.mp hcloser with hold | hnew
    · exact h.waited closer hold hwait hstage
    · rw [List.mem_singleton.mp hnew] at hstage
      cases hstage
  | @shut j wait _ =>
    refine { h with line := hline, waited := ?_ }
    intro closer hcloser hwait hstage
    rcases List.mem_or_eq_of_mem_set hcloser with hold | rfl
    · exact h.waited closer hold hwait hstage
    · simp only at hwait hstage
      rw [if_pos hwait] at hstage
      cases hstage
  | left _ hsettled =>
    exact { h with line := hline, waited := fun _ _ _ _ => hsettled }
  | @took job rest hidle hqueue =>
    refine { h with places := ?_, line := ?_, shared := ?_, alone := ?_, waited := ?_ }
    · rw [List.length_append, List.length_singleton, ← h.crew_eq]
      exact hidle
    · rw [hqueue] at hline
      simpa using hline
    · rw [← List.append_assoc]
      exact h.shared.append_right [job]
    · intro hone
      rw [← List.append_assoc, h.alone hone]
    · intro closer hcloser hwait hstage
      have hempty := (h.waited closer hcloser hwait hstage).1
      cases hqueue.symm.trans hempty
  | @finished k job hjob outcome =>
    obtain ⟨hk, rfl⟩ := List.getElem?_eq_some_iff.mp hjob
    refine { h with places := ?_, line := hline, shared := ?_, alone := ?_, waited := ?_ }
    · exact Nat.le_trans (List.length_eraseIdx_le o.inHand k) h.places
    · have hmoved : ([o.inHand[k]] ++ o.inHand.eraseIdx k).Perm o.inHand :=
        List.getElem_cons_eraseIdx_perm hk
      rw [List.map_append, List.append_assoc]
      exact (hmoved.append_left _).trans h.shared
    · -- the one worker ends the one delivery under way
      intro hone
      have hlen : o.inHand.length = 1 := by have := h.places; omega
      obtain ⟨held, hheld⟩ := List.length_eq_one_iff.mp hlen
      have hk0 : k = 0 := by omega
      subst hk0
      rw [← h.alone hone]
      simp [hheld]
    · intro closer hcloser hwait hstage
      have hempty := (h.waited closer hcloser hwait hstage).2
      rw [hempty] at hk
      exact absurd hk (Nat.not_lt_zero k)

/-- **Every run keeps the rooms.** Induction on the moves from their end. -/
theorem run (carrier : Carrier) (crew : Nat) (moves : List Move) :
    Workroom crew moves ((Office.new carrier crew).run moves) := by
  induction moves using List.reverseRecOn with
  | nil => exact .new carrier crew
  | append_singleton moves move ih =>
    rw [run_snoc]
    exact ih.step (Counter.sound_run carrier crew moves) move

/-- Where the accepted jobs are. -/
theorem everywhere {crew : Nat} {moves : List Move} {o : Office} (h : Workroom crew moves o) :
    ((o.ended.map Prod.fst ++ o.inHand ++ o.outbox.queue).map some).Perm
      (o.accepted.map (job? moves)) := by
  rw [← h.line]
  exact (h.shared.append_right _).map some

end Workroom

/-! ## The journal -/

/-- The journal agrees with the moves so far. -/
structure Chronicle (carrier : Carrier) (moves : List Move) (o : Office) : Prop where
  carrier_eq : o.outbox.carrier = carrier
  announced : o.journal.filter (·.level = .info) =
    (calls moves).map fun call => announcement call.2
  warned : o.journal.filter (·.level = .warning) =
    (o.ended.filter (·.2 = .undelivered)).map fun d =>
      (notDelivered carrier.className d.1).on .notify
  failed : o.journal.filter (·.level = .error) =
    (o.ended.filter (·.2.raises)).map fun d => (brokeDown carrier.className d.1).on .notify

namespace Chronicle

theorem new (carrier : Carrier) (crew : Nat) : Chronicle carrier [] (Office.new carrier crew) :=
  ⟨rfl, rfl, rfl, rfl⟩

/-- A move writes what it does: an announcement, a job that is dropped, or how one ended. -/
theorem step {carrier : Carrier} {moves : List Move} {o : Office} (h : Chronicle carrier moves o)
    (hc : o.counter.Sound moves) (move : Move) :
    Chronicle carrier (moves ++ [move]) (o.step move) := by
  obtain ⟨hcarrier, hannounced, hwarned, hfailed⟩ := h
  have hchange := change hc.shut move
  generalize o.step move = o' at hchange ⊢
  cases hchange with
  -- what is written, and at which level, is up to the move; the other moves write nothing
  | arrived webhook n =>
    constructor <;>
      simp [hcarrier, hannounced, hwarned, hfailed, calls_snoc, Move.call?, announcement,
        Entry.info]
  | dropped _ _ =>
    constructor <;>
      simp [hcarrier, hannounced, hwarned, hfailed, calls_snoc, Move.call?, Outbox.dropped,
        Entry.debug]
  | finished _ outcome =>
    cases outcome <;> constructor <;>
      simp [hcarrier, hannounced, hwarned, hfailed, calls_snoc, Move.call?, verdict, notDelivered,
        brokeDown, Entry.on, Entry.warning, Entry.failure, Outcome.raises]
  | still hcall _ _ => exact ⟨hcarrier, by simp [hannounced, calls_snoc, hcall], hwarned, hfailed⟩
  | accepted _ _ | elsewhere _ | closed _ | shut _ | left _ _ | took _ _ =>
    exact ⟨hcarrier, by simp [hannounced, calls_snoc, Move.call?], hwarned, hfailed⟩

/-- **Every run keeps the journal.** Induction on the moves from their end. -/
theorem run (carrier : Carrier) (crew : Nat) (moves : List Move) :
    Chronicle carrier moves ((Office.new carrier crew).run moves) := by
  induction moves using List.reverseRecOn with
  | nil => exact .new carrier crew
  | append_singleton moves move ih =>
    rw [run_snoc]
    exact ih.step (Counter.sound_run carrier crew moves) move

end Chronicle

/-! ## Clearing -/

/-- How many moves the crew has before it: two for a job in the queue, one for a job in hand. -/
def left (o : Office) : Nat :=
  2 * o.outbox.queue.length + o.inHand.length

/-- An office is settled if nothing is left. -/
theorem settled_iff (o : Office) : o.Settled ↔ o.left = 0 := by
  unfold Settled left
  rw [← List.length_eq_zero_iff, ← List.length_eq_zero_iff]
  omega

/-- A worker accepts nothing, and brings the end nearer if its move does anything. -/
theorem step_of_byCrew (o : Office) {move : Move} (h : move.byCrew = true) :
    (o.step move).accepted = o.accepted ∧ (o.step move = o ∨ (o.step move).left + 1 = o.left) := by
  cases move with
  -- to take a job or to end one is a step towards having nothing left
  | take =>
    simp only [step, Outbox.take]
    by_cases hidle : o.inHand.length < o.crew
    · rw [if_pos hidle]
      cases hqueue : o.outbox.queue with
      | nil => exact ⟨rfl, Or.inl rfl⟩
      | cons job rest =>
        refine ⟨rfl, Or.inr ?_⟩
        simp only [left, hqueue, List.length_append, List.length_cons, List.length_nil]
        omega
    · rw [if_neg hidle]
      exact ⟨rfl, Or.inl rfl⟩
  | finish k outcome =>
    simp only [step]
    cases hjob : o.inHand[k]? with
    | none => exact ⟨rfl, Or.inl rfl⟩
    | some job =>
      have hk : k < o.inHand.length := (List.getElem?_eq_some_iff.mp hjob).1
      refine ⟨rfl, Or.inr ?_⟩
      simp only [left, List.length_eraseIdx_of_lt hk]
      omega
  | post _ _ | enter _ | close _ | shut _ | leave _ => cases h

/-- The crew accepts nobody. -/
theorem accepted_of_byCrew {o : Office} {work : List Move}
    (h : ∀ move ∈ work, move.byCrew = true) : (o.run work).accepted = o.accepted := by
  induction work generalizing o with
  | nil => rfl
  | cons move work ih =>
    have hfirst := o.step_of_byCrew (h move List.mem_cons_self)
    exact (ih fun later hlater => h later (List.mem_cons_of_mem move hlater)).trans hfirst.1

/-- The crew moves, and none of its moves is in vain while anything is left to do. -/
def Diligent (o : Office) : List Move → Prop
  | [] => True
  | move :: work =>
    move.byCrew = true ∧ (¬ o.Settled → o.step move ≠ o) ∧ Diligent (o.step move) work

/-- Diligent moves are moves of the crew. -/
theorem Diligent.byCrew {o : Office} {work : List Move} (h : o.Diligent work) :
    ∀ move ∈ work, move.byCrew = true := by
  induction work generalizing o with
  | nil => exact nofun
  | cons move work ih =>
    obtain ⟨hmove, -, hwork⟩ := h
    intro move' hmove'
    rcases List.mem_cons.mp hmove' with rfl | hlater
    · exact hmove
    · exact ih hwork move' hlater

/-- A diligent crew is through after the moves that it has before it. -/
theorem Diligent.settled {o : Office} {work : List Move} (h : o.Diligent work)
    (hlength : o.left ≤ work.length) : (o.run work).Settled := by
  induction work generalizing o with
  | nil => exact o.settled_iff.mpr (Nat.le_zero.mp hlength)
  | cons move work ih =>
    obtain ⟨hmove, hvain, hwork⟩ := h
    refine ih hwork ?_
    rw [List.length_cons] at hlength
    rcases (o.step_of_byCrew hmove).2 with hsame | hnearer
    · -- only a crew that is through may move in vain
      have hsettled : o.Settled := by
        by_contra hunsettled
        exact hvain hunsettled hsame
      rw [hsame, o.settled_iff.mp hsettled]
      exact Nat.zero_le _
    · omega

/-- The crew ends one delivery, taking a job out of the queue first if it has none in hand. -/
theorem exists_end {o : Office} (hcrew : 0 < o.crew)
    (hleft : o.inHand.length + o.outbox.queue.length ≠ 0) (outcome : Outcome) :
    ∃ work, (∀ move ∈ work, move.byCrew = true) ∧ (o.run work).crew = o.crew ∧
      (o.run work).inHand.length + (o.run work).outbox.queue.length + 1 =
        o.inHand.length + o.outbox.queue.length ∧
      (o.run work).ended.map Prod.snd = o.ended.map Prod.snd ++ [outcome] := by
  -- someone has a job in hand and may end it, or else takes the first of the queue
  cases hheld : o.inHand with
  | cons job held =>
    refine ⟨[.finish 0 outcome], by simp [Move.byCrew], ?_⟩
    simp [run, step, hheld]
    omega
  | nil =>
    cases hqueue : o.outbox.queue with
    | nil => simp [hheld, hqueue] at hleft
    | cons job rest =>
      refine ⟨[.take, .finish 0 outcome], by simp [Move.byCrew], ?_⟩
      simp [run, step, hheld, hcrew, Outbox.take, hqueue]

/-- The crew can end everything that is left, however each delivery ends. -/
theorem exists_clearing {o : Office} (hcrew : 0 < o.crew) {outcomes : List Outcome}
    (hleft : outcomes.length = o.inHand.length + o.outbox.queue.length) :
    ∃ work, (∀ move ∈ work, move.byCrew = true) ∧ (o.run work).Settled ∧
      (o.run work).ended.map Prod.snd = o.ended.map Prod.snd ++ outcomes := by
  -- the first outcome is that of the delivery that ends next
  induction outcomes generalizing o with
  | nil =>
    obtain ⟨hheld, hqueue⟩ := Nat.add_eq_zero_iff.mp hleft.symm
    exact ⟨[], nofun, ⟨List.length_eq_zero_iff.mp hqueue, List.length_eq_zero_iff.mp hheld⟩,
      (List.append_nil _).symm⟩
  | cons outcome outcomes ih =>
    rw [List.length_cons] at hleft
    obtain ⟨first, hfirst, hcrew₁, hleft₁, hended₁⟩ := exists_end hcrew (by omega) outcome
    obtain ⟨rest, hrest, hsettled, hended⟩ :=
      ih (o := o.run first) (by rw [hcrew₁]; exact hcrew) (by omega)
    refine ⟨first ++ rest, ?_, ?_⟩
    · intro move hmove
      exact (List.mem_append.mp hmove).elim (hfirst move) (hrest move)
    · rw [run_append]
      refine ⟨hsettled, ?_⟩
      rw [hended, hended₁, List.append_assoc, List.singleton_append]

/-- When the crew is through, every job that was accepted is delivered. -/
theorem delivered_of_settled (carrier : Carrier) (crew : Nat) (moves : List Move)
    {work : List Move} (hwork : ∀ move ∈ work, move.byCrew = true) :
    let o := (new carrier crew).run moves
    (o.run work).Settled → ((o.run work).ended.map fun d => some d.1).Perm
      (o.accepted.map (job? moves)) := by
  intro o hsettled
  -- in a settled office the jobs that ended are all there are
  have hplaces := (Workroom.run carrier crew (moves ++ work)).everywhere
  rw [run_append] at hplaces
  change ((o.run work).ended.map Prod.fst ++ (o.run work).inHand ++
    (o.run work).outbox.queue |>.map some).Perm ((o.run work).accepted.map _) at hplaces
  rw [hsettled.1, hsettled.2, List.append_nil, List.append_nil, accepted_of_byCrew hwork,
    List.map_map] at hplaces
  have hcounter : o.counter.Sound moves := Counter.sound_run carrier crew moves
  rw [show o.accepted.map (job? (moves ++ work)) = _ from hcounter.jobs_append work] at hplaces
  exact hplaces

/-! ## All threads -/

/-- What is accepted stays so, and what is accepted later comes after it. -/
theorem accepted_prefix (carrier : Carrier) (crew : Nat) (moves later : List Move) :
    ((new carrier crew).run moves).accepted <+:
      ((new carrier crew).run (moves ++ later)).accepted := by
  induction later using List.reverseRecOn with
  | nil => simp only [List.append_nil, List.prefix_rfl]
  | append_singleton later move ih =>
    rw [← List.append_assoc, run_snoc]
    have hchange := change (Counter.sound_run carrier crew (moves ++ later)).shut move
    generalize Office.step _ move = o' at hchange ⊢
    cases hchange with
    | accepted _ _ => exact ih.trans (List.prefix_append _ _)
    | _ => exact ih

/-- **Every accepted notice is delivered once.** Threads post and close at an outbox with a crew, in
any order of their moves. Nobody is ever refused by a queue that is shut. Accepted are just the
notices that have a webhook and passed the lock before anybody closed, in the order of passing; each
of them is on its way to its webhook in one place, and a crew of one keeps their order. Whatever was
closed and however the single deliveries end, the crew can end all of them, and does so within the
moves that it has before it unless it idles; a closer who waits is not back before that. The journal
announces every notice once, and has one line for every delivery that was not made and one for every
delivery that came upon an error. -/
theorem run_delivers_accepted (carrier : Carrier) {crew : Nat} (hcrew : 0 < crew)
    (moves : List Move) :
    let o := (new carrier crew).run moves
    let jobs := o.accepted.map (job? moves)
    (∀ p ∈ o.posters, ∀ e, p.stage ≠ .refused e) ∧
    o.posters.map Poster.call = calls moves ∧
    o.accepted.Nodup ∧ (∀ i, i ∈ o.accepted ↔ PassedInTime moves i) ∧
    (∀ before, before <+: moves → ((new carrier crew).run before).accepted <+: o.accepted) ∧
    ((o.ended.map Prod.fst ++ o.inHand ++ o.outbox.queue).map some).Perm jobs ∧
    (crew = 1 → (o.ended.map Prod.fst ++ o.inHand ++ o.outbox.queue).map some = jobs) ∧
    (∀ outcomes : List Outcome, outcomes.length = o.inHand.length + o.outbox.queue.length →
      ∃ work, (∀ move ∈ work, move.byCrew = true) ∧
        let done := o.run work
        done.Settled ∧ (done.ended.map fun d => some d.1).Perm jobs ∧
        done.ended.map Prod.snd = o.ended.map Prod.snd ++ outcomes) ∧
    (∀ work, o.Diligent work → o.left ≤ work.length →
      let done := o.run work
      done.Settled ∧ (done.ended.map fun d => some d.1).Perm jobs) ∧
    (∀ closer ∈ o.closers, closer.wait = true → closer.stage = .returned → o.Settled) ∧
    o.journal.filter (·.level = .info) = (calls moves).map (fun call => announcement call.2) ∧
    o.journal.filter (·.level = .warning) = (o.ended.filter (·.2 = .undelivered)).map
      (fun d => (notDelivered carrier.className d.1).on .notify) ∧
    o.journal.filter (·.level = .error) = (o.ended.filter (·.2.raises)).map
      (fun d => (brokeDown carrier.className d.1).on .notify) := by
  intro o jobs
  have hcounter : o.counter.Sound moves := Counter.sound_run carrier crew moves
  have hroom : Workroom crew moves o := .run carrier crew moves
  have hjournal : Chronicle carrier moves o := .run carrier crew moves
  refine ⟨hcounter.unrefused, hcounter.posters, hcounter.nodup, hcounter.accepted, ?_,
    hroom.everywhere, ?_, ?_, ?_, hroom.waited, hjournal.announced, hjournal.warned,
    hjournal.failed⟩
  · -- the accepted ones are never taken back
    rintro before ⟨later, rfl⟩
    exact accepted_prefix carrier crew before later
  · intro hone
    rw [hroom.alone hone]
    exact hroom.line
  · intro outcomes hleft
    obtain ⟨work, hwork, hsettled, hended⟩ :=
      exists_clearing (by rw [hroom.crew_eq]; exact hcrew) hleft
    have hdelivered := delivered_of_settled carrier crew moves hwork hsettled
    exact ⟨work, hwork, hsettled, hdelivered, hended⟩
  · intro work hdiligent hlength
    have hsettled := hdiligent.settled hlength
    exact ⟨hsettled, delivered_of_settled carrier crew moves hdiligent.byCrew hsettled⟩

/-- A notice that is in the queue when somebody closes is delivered all the same, and one that comes
to the lock after that is not. -/
theorem run_delivers_accepted_late :
    let n : Notice := ⟨"Peer A is Down", "", ⟨0, none⟩, none, "Down", "Up"⟩
    let e : CarryError := .transport "RuntimeError" "boom"
    let moves : List Move := [.post (some "http://a") n, .enter 0, .post (some "http://b") n,
      .close true, .enter 1, .shut 0, .leave 0, .take]
    let o := (new (.rehearsal [] 0) 1).run moves
    o.accepted = [0] ∧ o.ended = [] ∧ ∃ work, (∀ move ∈ work, move.byCrew = true) ∧
      (o.run work).ended = [(⟨"http://a", n⟩, .raised e)] := by
  intro n e moves o
  have haccepted : o.accepted = [0] := by decide +kernel
  have hended : o.ended = [] := by decide +kernel
  have hleft : [Outcome.raised e].length = o.inHand.length + o.outbox.queue.length := by
    decide +kernel
  obtain ⟨-, -, -, -, -, -, -, hclear, -⟩ :=
    run_delivers_accepted (.rehearsal [] 0) (show 0 < 1 by decide) moves
  -- one job is in hand, and its end is left to the crew
  obtain ⟨work, hwork, -, hjobs, houtcomes⟩ := hclear [.raised e] hleft
  refine ⟨haccepted, hended, work, hwork, ?_⟩
  rw [show ((new (.rehearsal [] 0) 1).run moves).ended = [] from hended] at houtcomes
  rw [show ((new (.rehearsal [] 0) 1).run moves).accepted = [0] from haccepted] at hjobs
  obtain ⟨d, hd, hjob⟩ := List.map_eq_singleton_iff.mp (List.perm_singleton.mp hjobs)
  change (o.run work).ended = [d] at hd
  change (o.run work).ended.map Prod.snd = [.raised e] at houtcomes
  rw [hd] at houtcomes ⊢
  obtain ⟨job, outcome⟩ := d
  obtain rfl : job = _ := Option.some.inj hjob
  obtain rfl : outcome = _ := List.singleton_inj.mp houtcomes
  rfl

end Office
end Outbox
end EchoWatch
