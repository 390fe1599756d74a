import EchoWatch.Proofs.Watch.Build
import EchoWatch.Proofs.Watch.Calls
import EchoWatch.Proofs.Watch.Life
/-!
# Beginning and end of a life

A monitor listens once and ends once, in whatever order its callers listen, close and stop and
however its source behaves. The first call that listens or stops decides what becomes of it, and so
the marks of a life (`Marks`) are always those of one of seven eras (`Era`).

* **`inner_act`**: what the events that neither begin nor end anything can do.
* **`Era.act`**: every event leads from an era to an era.
* **`Finished`**: what holds from the moment when listening is over, and what can happen after it.
* **`lifecycle`**: the consequences, for every sequence of events.
-/

namespace EchoWatch
namespace Life

/-! ## Events -/

/-- A caller listens or stops. -/
def Event.decides : Event → Bool
  | .listen _ | .stop => true
  | _ => false

def Event.listens : Event → Bool
  | .listen _ => true
  | _ => false

/-- The event may begin or end something. -/
def Event.steers : Event → Bool
  | .listen _ | .close | .stop | .fail _ _ => true
  | _ => false

/-- The jobs that an effect shows to be delivered. -/
def Effect.jobs (effect : Effect) : List Job :=
  (effect.sent?.map Sent.job).toList

/-- A board, an outbox, a clock and a loop for a life. -/
def inside (l : Life) (now : Moment) (board : Board) (outbox : Outbox) (loop : Loop) : Life :=
  { l with
    session := { l.session with
      now := now
      monitor := { l.session.monitor with board := board, outbox := outbox } }
    loop := loop }

/-- What an event does that begins and ends nothing: the outbox is not opened or closed, nothing
gets into its queue if it is closed, and the loop is not started. -/
structure Inner (l : Life) (effect : Effect) (l' : Life) : Prop where
  eq_inside :
    l' = l.inside l'.session.now l'.session.monitor.board l'.session.monitor.outbox l'.loop
  closed : l'.session.monitor.outbox.closed = l.session.monitor.outbox.closed
  shut : l'.session.monitor.outbox.shut = l.session.monitor.outbox.shut
  queue : l.session.monitor.outbox.closed = true →
    effect.jobs ++ l'.session.monitor.outbox.queue = l.session.monitor.outbox.queue
  loop : l'.loop ≠ .absent → l.loop ≠ .absent

theorem inner_self (l : Life) : l.Inner .silent l :=
  ⟨rfl, rfl, rfl, fun _ => rfl, id⟩

/-- The monitor goes on, as it does when peers are checked. -/
theorem inner_of_goesOn (l : Life) {m : Monitor} (hgoes : l.session.monitor.GoesOn m)
    {effect : Effect} (heffect : effect.jobs = []) (loop : Loop)
    (hloop : loop ≠ .absent → l.loop ≠ .absent) :
    l.Inner effect { l.withMonitor m with loop := loop } := by
  refine ⟨?_, hgoes.closed, hgoes.shut, fun h => ?_, hloop⟩
  · exact congrArg (fun m => { l.withMonitor m with loop := loop }) hgoes.eq
  · rw [heffect]
    exact congrArg Outbox.queue (hgoes.outbox_eq h)

/-- The loop checks one peer more, and does not end before its pass does. -/
theorem inner_check (l : Life) {i : Nat} (hloop : l.loop = .checking i) :
    l.Inner .silent (l.check i) := by
  have hstarted : ∀ loop : Loop, loop ≠ .absent → l.loop ≠ .absent := by
    rw [hloop]
    exact fun _ _ => nofun
  unfold check
  cases hcheck : l.session.monitor.checkAt l.session.now i with
  | none => exact ⟨rfl, rfl, rfl, fun _ => rfl, hstarted _⟩
  | some checked =>
    have hgoes := Monitor.goesOn_checkAt hcheck
    obtain ⟨_ | _, m, entries⟩ := checked <;> exact l.inner_of_goesOn hgoes rfl _ (hstarted _)

/-- **Events that do not steer are inner ones**: packets, checks, deliveries and the clock. -/
theorem inner_act (l : Life) {e : Event} (he : e.steers = false) :
    l.Inner (l.act e).1 (l.act e).2 := by
  cases e with
  | setClock now | packet address => exact ⟨rfl, rfl, rfl, fun _ => rfl, id⟩
  | checkAll =>
    exact l.inner_of_goesOn (Monitor.leadsOn_goesOn.checkAll _ l.session.now) rfl l.loop id
  -- an arrival is a packet while packets are received, and nothing otherwise
  | arrive address =>
    simp only [act]
    cases hstage : l.stage with
    | receiving => exact ⟨by rw [inside, hstage]; rfl, rfl, rfl, fun _ => rfl, id⟩
    | idle | finished _ => exact l.inner_self
  | begin =>
    simp only [act]
    cases hloop : l.loop with
    | absent | checking _ => exact l.inner_self
    | waiting =>
      dsimp only
      cases l.session.monitor.stopping with
      | true => exact l.inner_self
      | false => exact ⟨rfl, rfl, rfl, fun _ => rfl, fun _ => by rw [hloop]; decide⟩
  | next =>
    simp only [act]
    cases hloop : l.loop with
    | absent | waiting => exact l.inner_self
    | checking i => exact l.inner_check hloop
  | deliver =>
    cases hqueue : l.session.monitor.outbox.queue with
    | nil =>
      rw [l.act_deliver_of_nil hqueue]
      exact l.inner_self
    | cons job rest =>
      rw [l.act_deliver_of_cons hqueue]
      exact ⟨rfl, rfl, rfl, fun _ => hqueue.symm, id⟩
  | listen _ | close | stop | fail _ _ => cases he

/-! ## Eras -/

/-- What tells how far a life has come. -/
structure Marks where
  listenCalled : Bool
  stopping : Bool
  tornDown : Bool
  source : Option Nat
  closed : Bool
  shut : Bool
  stage : Stage
  openings : Nat
  loop : Loop

def marks (l : Life) : Marks :=
  let m := l.session.monitor
  ⟨m.listenCalled, m.stopping, m.tornDown, m.source, m.outbox.closed, m.outbox.shut, l.stage,
    l.openings, l.loop⟩

/-- The marks that a life can have, by the first event that listens or stops and by whether anybody
has listened. -/
inductive Era : Option Event → Bool → Marks → Prop where
  | untouched : Era none false ⟨false, false, false, none, false, false, .idle, 0, .absent⟩
  | stopped : Era (some .stop) false ⟨false, true, false, none, false, false, .idle, 0, .absent⟩
  | cancelled : Era (some .stop) true
      ⟨true, true, true, none, true, true, .finished none, 0, .absent⟩
  | refused (e : Monitor.Trouble) (stopping : Bool) : Era (some (.listen (some e))) true
      ⟨true, stopping, true, none, true, true, .finished (some (.outside e)), 1, .absent⟩
  | receiving (loop : Loop) : Era (some (.listen none)) true
      ⟨true, false, false, some 0, false, false, .receiving, 1, loop⟩
  | closing (loop : Loop) : Era (some (.listen none)) true
      ⟨true, true, true, some 1, true, true, .receiving, 1, loop⟩
  | ended (error : Option Session.CallError) (loop : Loop) : Era (some (.listen none)) true
      ⟨true, true, true, some 1, true, true, .finished error, 1, loop⟩

namespace Era

variable {first : Option Event} {asked : Bool}

/-- The loop plays no part in an era, except that none begins by itself. -/
theorem withLoop {marks : Marks} (h : Era first asked marks) {loop : Loop}
    (hloop : loop ≠ .absent → marks.loop ≠ .absent) :
    Era first asked { marks with loop := loop } := by
  have habsent : marks.loop = .absent → loop = .absent := fun h => by
    by_contra hne
    exact hloop hne h
  cases h with
  | untouched => rw [habsent rfl]; exact .untouched
  | stopped => rw [habsent rfl]; exact .stopped
  | cancelled => rw [habsent rfl]; exact .cancelled
  | refused e stopping => rw [habsent rfl]; exact .refused e stopping
  | receiving _ => exact .receiving loop
  | closing _ => exact .closing loop
  | ended error _ => exact .ended error loop

variable {l : Life}

/-- A stop decides if nothing has decided yet. While packets are received it makes the end. -/
theorem stop (h : Era first asked l.marks) :
    Era (first.or (some .stop)) asked (l.act .stop).2.marks := by
  obtain ⟨⟨⟨address, cycle, board, ⟨carrier, queue, closed, shut⟩, called, stopping, torn, source⟩,
    now, steady⟩, stage, loop, openings⟩ := l
  cases h with
  | untouched | stopped => exact .stopped
  | cancelled => exact .cancelled
  | refused e _ => exact .refused e true
  | receiving _ | closing _ => exact .closing loop
  | ended error _ => exact .ended error loop

/-- A close makes the end while packets are received, and is refused otherwise. -/
theorem close (h : Era first asked l.marks) : Era first asked (l.act .close).2.marks := by
  obtain ⟨⟨⟨address, cycle, board, ⟨carrier, queue, closed, shut⟩, called, stopping, torn, source⟩,
    now, steady⟩, stage, loop, openings⟩ := l
  cases h with
  | untouched => exact .untouched
  | stopped => exact .stopped
  | cancelled => exact .cancelled
  | refused e _ => exact .refused e stopping
  | receiving _ | closing _ => exact .closing loop
  | ended error _ => exact .ended error loop

/-- An attempt to listen decides if nothing has decided yet, and is refused otherwise. -/
theorem listen (h : Era first asked l.marks) (refusal : Option Monitor.Trouble) :
    Era (first.or (some (.listen refusal))) true (l.act (.listen refusal)).2.marks := by
  obtain ⟨⟨⟨address, cycle, board, ⟨carrier, queue, closed, shut⟩, called, stopping, torn, source⟩,
    now, steady⟩, stage, loop, openings⟩ := l
  cases h with
  | untouched =>
    cases refusal with
    | none => exact .receiving .waiting
    | some e => exact .refused e false
  | stopped | cancelled => exact .cancelled
  | refused e _ => exact .refused e stopping
  | receiving _ => exact .receiving loop
  | closing _ => exact .closing loop
  | ended error _ => exact .ended error loop

/-- A failure of the source ends what is being received, and nothing else. -/
theorem fail (h : Era first asked l.marks) (systemError : Bool) (e : Monitor.Trouble) :
    Era first asked (l.act (.fail systemError e)).2.marks := by
  obtain ⟨⟨⟨address, cycle, board, ⟨carrier, queue, closed, shut⟩, called, stopping, torn, source⟩,
    now, steady⟩, stage, loop, openings⟩ := l
  cases h with
  | untouched => exact .untouched
  | stopped => exact .stopped
  | cancelled => exact .cancelled
  | refused e _ => exact .refused e stopping
  | receiving _ | closing _ => exact .ended _ loop
  | ended error _ => exact .ended error loop

/-- **One event** leads from an era to an era. -/
theorem act (h : Era first asked l.marks) (e : Event) :
    Era (first.or (if e.decides then some e else none)) (asked || e.listens) (l.act e).2.marks := by
  by_cases he : e.steers = true
  · cases e with
    | listen refusal => simpa [Event.decides, Event.listens] using h.listen refusal
    | stop => simpa [Event.decides, Event.listens] using h.stop
    | close => simpa [Event.decides, Event.listens] using h.close
    | fail systemError e => simpa [Event.decides, Event.listens] using h.fail systemError e
    | _ => cases he
  · -- such an event changes no mark but that of the loop, and decides nothing
    have hinner := l.inner_act (Bool.not_eq_true _ ▸ he)
    have hmarks : (l.act e).2.marks = { l.marks with loop := (l.act e).2.loop } := by
      rw [hinner.eq_inside]
      simp only [marks, inside, hinner.closed, hinner.shut]
    have hdecides : e.decides = false ∧ e.listens = false := by
      cases e <;> first | exact ⟨rfl, rfl⟩ | exact absurd rfl he
    rw [hmarks, hdecides.1, hdecides.2, Bool.or_false, if_neg (by decide), Option.or_none]
    exact h.withLoop hinner.loop

/-- **Any events** lead from the first era to an era. Induction on the events from their end. -/
theorem run {l : Life} (h : Era none false l.marks) (events : List Event) :
    Era (events.find? Event.decides) (events.any Event.listens) (l.after events).marks := by
  induction events using List.reverseRecOn with
  | nil => exact h
  | append_singleton events e ih =>
    rw [after_snoc, List.find?_append, List.any_append, List.any_cons, List.any_nil, Bool.or_false]
    simpa [List.find?_singleton] using ih.act e

end Era

/-! ## Calls -/

section Calls

variable {l : Life}

/-- Whoever listens a second time is refused, and nothing changes. -/
theorem act_listen_of_called (h : l.session.monitor.listenCalled = true)
    (refusal : Option Monitor.Trouble) :
    l.act (.listen refusal) = (.replied (.error .alreadyListening), l) := by
  have hopens : l.session.monitor.opens = false := by
    unfold Monitor.opens
    rw [h]
    rfl
  simp only [act, listen, Monitor.start_of_called refusal h, hopens]
  rfl

theorem act_close_of_deaf (h : l.session.monitor.listening = false) :
    l.act .close = (.replied (.error .notListening), l) := by
  simp only [act, call, Session.call, Monitor.close_of_deaf h]

/-- To close is to make the end. -/
theorem act_close_of_listening (h : l.session.monitor.listening = true) :
    l.act .close = (.replied .nothing, l.withMonitor l.session.monitor.teardown.1) := by
  simp only [act, call, Session.call, Monitor.close_of_listening h]
  rfl

theorem act_stop : l.act .stop = (.replied .nothing, l.withMonitor l.session.monitor.stop.1) :=
  rfl

end Calls

/-- To close or stop a monitor that receives makes its end. -/
theorem torn_of_receiving {l : Life} {e : Event} (he : e = .close ∨ e = .stop)
    (hlistening : l.session.monitor.listening = true)
    (hstanding : l.session.monitor.tornDown = false) :
    (l.act e).2.session.monitor = l.session.monitor.torn := by
  rcases he with rfl | rfl
  · rw [act_close_of_listening hlistening, Monitor.teardown_of_standing hstanding]
    rfl
  · rw [act_stop, Monitor.stop_of_standing hlistening hstanding,
      Monitor.teardown_of_standing hstanding]
    rfl

/-- To close or stop a monitor otherwise only marks that it is to stop. -/
theorem inert_of_idle {l : Life} {e : Event} (he : e = .close ∨ e = .stop)
    (hidle : l.session.monitor.listening = false ∨ l.session.monitor.tornDown = true) :
    (l.act e).2 = l ∨ (l.act e).2 = l.withMonitor { l.session.monitor with stopping := true } := by
  rcases he with rfl | rfl
  · -- a close without effect changes nothing, a stop leaves its mark
    left
    cases hlistening : l.session.monitor.listening with
    | false => rw [act_close_of_deaf hlistening]
    | true =>
      have htorn := hidle.resolve_left (by rw [hlistening]; decide)
      rw [act_close_of_listening hlistening, Monitor.teardown_of_tornDown htorn]
      rfl
  · right
    rcases hidle with hdeaf | htorn
    · rw [act_stop, Monitor.stop_of_deaf hdeaf]
    · rw [act_stop, Monitor.stop_of_tornDown htorn]

/-! ## After the end -/

/-- A life in which listening is over. -/
structure Finished (error : Option Session.CallError) (l : Life) : Prop where
  stage : l.stage = .finished error
  called : l.session.monitor.listenCalled = true
  torn : l.session.monitor.tornDown = true
  closed : l.session.monitor.outbox.closed = true
  shut : l.session.monitor.outbox.shut = true
  source : l.session.monitor.source = none ∨
    l.session.monitor.source = some 1 ∧ l.session.monitor.stopping = true
  loop : l.loop ≠ .absent → l.session.monitor.stopping = true

/-- A life whose listening is over is finished. -/
theorem Era.finished {first : Option Event} {asked : Bool} {l : Life} (h : Era first asked l.marks)
    {error : Option Session.CallError} (hstage : l.stage = .finished error) :
    l.Finished error := by
  obtain ⟨⟨⟨address, cycle, board, ⟨carrier, queue, closed, shut⟩, called, stopping, torn, source⟩,
    now, steady⟩, stage, loop, openings⟩ := l
  cases h with
  | untouched | stopped | receiving _ | closing _ => cases hstage
  | cancelled => exact ⟨hstage, rfl, rfl, rfl, rfl, Or.inl rfl, fun h => absurd rfl h⟩
  | refused e _ => exact ⟨hstage, rfl, rfl, rfl, rfl, Or.inl rfl, fun h => absurd rfl h⟩
  | ended error _ => exact ⟨hstage, rfl, rfl, rfl, rfl, Or.inr ⟨rfl, rfl⟩, fun _ => rfl⟩

namespace Finished

variable {error : Option Session.CallError} {l : Life}

/-- The loop begins no pass. -/
theorem act_begin (h : l.Finished error) : l.act .begin = (.silent, l) := by
  simp only [act]
  cases hloop : l.loop with
  | absent | checking _ => rfl
  | waiting =>
    have hstopping : l.session.monitor.stopping = true := h.loop (by rw [hloop]; decide)
    simp only [hstopping, if_true]

/-- The mark of a stop changes nothing after the end. -/
theorem of_stopping (h : l.Finished error) :
    (l.withMonitor { l.session.monitor with stopping := true }).Finished error :=
  ⟨h.stage, h.called, h.torn, h.closed, h.shut, h.source.imp_right fun hclosed => ⟨hclosed.1, rfl⟩,
    fun _ => rfl⟩

/-- Inner events change nothing about the end. -/
theorem of_inner (h : l.Finished error) {effect : Effect} {l' : Life} (hinner : l.Inner effect l') :
    l'.Finished error where
  stage := (congrArg Life.stage hinner.eq_inside).trans h.stage
  called := (congrArg (fun x => x.session.monitor.listenCalled) hinner.eq_inside).trans h.called
  torn := (congrArg (fun x => x.session.monitor.tornDown) hinner.eq_inside).trans h.torn
  closed := hinner.closed.trans h.closed
  shut := hinner.shut.trans h.shut
  source := by
    rw [hinner.eq_inside]
    exact h.source
  loop := by
    intro hloop
    rw [hinner.eq_inside]
    exact h.loop (hinner.loop hloop)

theorem act (h : l.Finished error) (e : Event) :
    (l.act e).2.Finished error ∧ (l.act e).2.session.monitor.source = l.session.monitor.source ∧
      (l.act e).2.openings = l.openings ∧
      (l.act e).1.jobs ++ (l.act e).2.session.monitor.outbox.queue =
        l.session.monitor.outbox.queue := by
  by_cases he : e.steers = true
  · have hjobs : (l.act e).1.jobs = [] := by
      rw [Effect.jobs, sent?_act l (by rintro rfl; cases he)]
      rfl
    have hact : (l.act e).2 = l ∨
        (l.act e).2 = l.withMonitor { l.session.monitor with stopping := true } := by
      cases e with
      | listen refusal => exact Or.inl (congrArg Prod.snd (act_listen_of_called h.called refusal))
      | close => exact inert_of_idle (Or.inl rfl) (Or.inr h.torn)
      | stop => exact inert_of_idle (Or.inr rfl) (Or.inr h.torn)
      | fail systemError e =>
        left
        simp only [Life.act, h.stage]
      | _ => cases he
    -- what steers a life that is over can still mark it as stopping, and no more
    rw [hjobs]
    rcases hact with hact | hact
    · rw [hact]
      exact ⟨h, rfl, rfl, rfl⟩
    · rw [hact]
      exact ⟨h.of_stopping, rfl, rfl, rfl⟩
  · have hinner := l.inner_act (Bool.not_eq_true _ ▸ he)
    exact ⟨h.of_inner hinner, congrArg (fun x => x.session.monitor.source) hinner.eq_inside,
      congrArg (fun x => x.openings) hinner.eq_inside, hinner.queue h.closed⟩

/-- After the end nothing is accepted any more, and the source is left alone. -/
theorem after (h : l.Finished error) (later : List Event) :
    (l.after later).Finished error ∧
      (l.after later).session.monitor.source = l.session.monitor.source ∧
      (l.after later).openings = l.openings ∧
      (l.sent later).map Sent.job ++ (l.after later).session.monitor.outbox.queue =
        l.session.monitor.outbox.queue := by
  induction later using List.reverseRecOn with
  | nil => exact ⟨h, rfl, rfl, rfl⟩
  | append_singleton later e ih =>
    obtain ⟨hfinished, hsource, hopenings, hqueue⟩ := ih
    -- the last event takes its job from the queue as it was before
    obtain ⟨hfinished', hsource', hopenings', hqueue'⟩ := hfinished.act e
    rw [after_snoc, sent_snoc]
    refine ⟨hfinished', hsource'.trans hsource, hopenings'.trans hopenings, ?_⟩
    rw [List.map_append, List.append_assoc, ← Option.toList_map]
    exact (congrArg (_ ++ ·) hqueue').trans hqueue

end Finished

/-! ## Every sequence of events -/

namespace Era

variable {first : Option Event} {asked : Bool} {marks : Marks}

theorem openings (h : Era first asked marks) :
    marks.openings = if first.any Event.listens then 1 else 0 := by
  cases h <;> rfl

theorem source_iff (h : Era first asked marks) :
    marks.source.isSome = true ↔ first = some (.listen none) := by
  cases h <;> simp

theorem called (h : Era first asked marks) : marks.listenCalled = asked := by
  cases h <;> rfl

/-- The end of a monitor that listens is made as soon as it is to stop. -/
theorem tornDown (h : Era first asked marks) (hsource : marks.source.isSome = true) :
    marks.tornDown = marks.stopping := by
  cases h with
  | untouched | stopped | cancelled | refused _ _ => cases hsource
  | receiving _ | closing _ | ended _ _ => rfl

end Era

/-- **A monitor begins once and ends once.** It is built from any configuration, its callers
listen, close and stop in any order, and its source behaves as it likes. The source is asked for at
most once: just when somebody listened before anybody stopped. Whoever listens later is told so,
whoever closes before the source is open is told so, and neither changes anything; stopping is
always in order. To close or stop does nothing to the source, the outbox and the board, except that
the first who does it while the source is open makes the end. Once listening is over, with an error
or without, the outbox is closed, and the source, if there was one, is closed once and the monitor
marked as stopping; and whatever comes later, the loop begins no pass and nothing is accepted for
delivery. -/
theorem lifecycle {c : Settings} (hc : c.Buildable) {address : String} (haddress : address ≠ "")
    (verbose : Bool) (carrier : Carrier) (start : Moment) (steady : Binary64) :
    ∃ m, Monitor.build c address verbose (.ok carrier) = .ok m ∧ ∀ events : List Event,
      let l := (Life.new ⟨m, start, steady⟩).after events
      let s := l.session.monitor
      let first := events.find? Event.decides
      l.openings = (if first.any Event.listens then 1 else 0) ∧
      (s.listening = true ↔ first = some (.listen none)) ∧
      (events.any Event.listens = true → ∀ refusal,
        l.act (.listen refusal) = (.replied (.error .alreadyListening), l)) ∧
      (s.listening = false → l.act .close = (.replied (.error .notListening), l)) ∧
      (s.listening = true → (l.act .close).1 = .replied .nothing) ∧
      (l.act .stop).1 = .replied .nothing ∧
      (∀ e, e = .close ∨ e = .stop → let s' := (l.act e).2.session.monitor
        if s.listening = true ∧ s.stopping = false then s' = s.torn
        else s'.source = s.source ∧ s'.outbox = s.outbox ∧ s'.board = s.board) ∧
      (∀ error, l.stage = .finished error →
        (s.source = none ∨ s.source = some 1 ∧ s.stopping = true) ∧
        ∀ later, let l' := l.after later
          let s' := l'.session.monitor
          l'.stage = .finished error ∧ l'.openings = l.openings ∧ s'.source = s.source ∧
          s'.outbox.closed = true ∧ s'.outbox.shut = true ∧ l'.act .begin = (.silent, l') ∧
          (l.sent later).map Sent.job ++ s'.outbox.queue = s.outbox.queue) := by
  obtain ⟨m, hbuild, -⟩ := Monitor.exists_build hc haddress verbose carrier
  refine ⟨m, hbuild, ?_⟩
  intro events l s first
  have hera : Era first (events.any Event.listens) l.marks := by
    refine Era.run ?_ events
    obtain ⟨-, board, k, -, -, rfl⟩ := Monitor.build_eq_ok_iff.mp hbuild
    exact .untouched
  -- while there is a source, the end and the mark of a stop come together
  have htorn : s.listening = true → s.tornDown = s.stopping := hera.tornDown
  refine ⟨hera.openings, hera.source_iff, ?_, act_close_of_deaf, ?_, rfl, ?_, ?_⟩
  · intro hasked
    exact act_listen_of_called (hera.called.trans hasked)
  · intro hlistening
    rw [act_close_of_listening hlistening]
  · intro e he s'
    split
    next hreceiving =>
      exact torn_of_receiving he hreceiving.1 ((htorn hreceiving.1).trans hreceiving.2)
    next hidle =>
      -- there is no source to close, or its end was made before
      have hidle' : s.listening = false ∨ s.tornDown = true := by
        cases hlistening : s.listening with
        | false => exact Or.inl rfl
        | true =>
          rw [htorn hlistening]
          exact Or.inr (by_contra fun h => hidle ⟨hlistening, Bool.not_eq_true _ ▸ h⟩)
      rcases inert_of_idle he hidle' with hact | hact
      · simp only [s', hact]
        exact ⟨rfl, rfl, rfl⟩
      · simp only [s', hact]
        exact ⟨rfl, rfl, rfl⟩
  · intro error hstage
    have hfinished : l.Finished error := hera.finished hstage
    refine ⟨hfinished.source, ?_⟩
    intro later l' s'
    obtain ⟨hfinished', hsource, hopenings, hqueue⟩ := hfinished.after later
    exact ⟨hfinished'.stage, hopenings, hsource, hfinished'.closed, hfinished'.shut,
      hfinished'.act_begin, hqueue⟩

/-- The source fails in the middle of a pass. The notice that was accepted before is delivered, and
one that is due after that is not. -/
theorem lifecycle_failing :
    let c : Settings :=
      ⟨1, 1, "1s", "5s", "", ⟨"slack", []⟩, [⟨"A", "10.0.0.0/24", 0, 0, "http://a"⟩]⟩
    let failure : Monitor.Trouble := ⟨"ValueError", "boom"⟩
    let events : List Event := [.close, .listen none, .arrive "10.0.0.5", .begin, .next, .next,
      .begin, .next, .fail false failure]
    let later : List Event := [.listen none, .stop, .setClock ⟨9000000, some .utc⟩, .checkAll,
      .checkAll, .next, .begin, .close, .deliver, .deliver]
    ∃ m, Monitor.build c "0.0.0.0" false (.ok (.rehearsal [] 0)) = .ok m ∧
      let l := (Life.new ⟨m, ⟨0, some .utc⟩, .finite false 0⟩).after events
      let s' := (l.after later).session.monitor
      l.openings = 1 ∧ l.stage = .finished (some (.outside failure)) ∧ s'.source = some 1 ∧
      (l.after later).act .begin = (.silent, l.after later) ∧
      ((l.sent later).map Sent.job ++ s'.outbox.queue).map (·.notice.newState) = ["Up"] ∧
      s'.board.roster.peers.map (·.debouncer.phase) = [.down] := by
  intro c failure events later
  let range : Net.Range := .around (.ofQuad 167772160) 24 (by decide)
  have hc : c.Buildable := .of_singleton range rfl (by decide)
  obtain ⟨m, hbuild, hlife⟩ := @lifecycle c hc "0.0.0.0" (by decide) false (.rehearsal [] 0)
    ⟨0, some .utc⟩ (.finite false 0)
  obtain ⟨hopenings, -, -, -, -, -, -, hfinished⟩ := hlife events
  have hm := Monitor.eq_around_of_build hbuild
    [⟨"A", range, some "http://a", .start ⟨1, 1⟩, none, .free⟩] rfl
  refine ⟨m, hbuild, ?_⟩
  -- the life after the events is evaluated only for what is shown of it
  generalize hl : (Life.new ⟨m, ⟨0, some .utc⟩, .finite false 0⟩).after events = l
    at hopenings hfinished ⊢
  rw [hm] at hl
  have hstage : l.stage = .finished (some (.outside failure)) := by
    rw [← hl]
    decide +kernel
  obtain ⟨-, -, hsource, -, -, hbegin, hqueue⟩ := (hfinished _ hstage).2 later
  have hclosed : l.session.monitor.source = some 1 := by
    rw [← hl]
    decide +kernel
  refine ⟨hopenings, hstage, hsource.trans hclosed, hbegin, ?_, ?_⟩
  · rw [hqueue, ← hl]
    decide +kernel
  · rw [← hl]
    decide +kernel

end Life
end EchoWatch
