import EchoWatch.Proofs.Delivery.Carrier
import EchoWatch.Proofs.Watch.Calls
import EchoWatch.Proofs.Watch.Life
import EchoWatch.Proofs.Watch.Session
/-!
# Deliveries are not seen

How a delivery ends is written to the journal and nowhere else. Two lives of a monitor that differ
only in their carriers and in when their workers deliver cannot be told apart by anybody who calls
the monitor.

The proof takes deliveries back: `undone` gives an outbox the jobs that it has delivered, and any
carrier. Every event but a delivery does the same to a life with deliveries undone (`act_undone`),
and a delivery leaves such a life as it is (`act_deliver_undone`); so a life whose deliveries are
undone is the life of the same events without a worker (`after_undone`).
-/

namespace EchoWatch

/-! ## Deliveries undone -/

/-- An outbox that has some deliveries before it again, and another carrier to make them. -/
def Outbox.undone (o : Outbox) (carrier : Carrier) (jobs : List Job) : Outbox :=
  { o with carrier := carrier, queue := jobs ++ o.queue }

def Monitor.undone (m : Monitor) (carrier : Carrier) (jobs : List Job) : Monitor :=
  { m with outbox := m.outbox.undone carrier jobs }

def Life.undone (l : Life) (carrier : Carrier) (jobs : List Job) : Life :=
  l.withMonitor (l.session.monitor.undone carrier jobs)

section Undone

variable (carrier : Carrier) (jobs : List Job)

namespace Outbox

/-- A job is accepted as it would be without the deliveries. -/
theorem accept_undone (o : Outbox) (job : Job) :
    (o.undone carrier jobs).accept job =
      (o.accept job).map (Option.map fun o => o.undone carrier jobs) := by
  unfold accept submit undone
  cases o.closed with
  | true => rfl
  | false => cases o.shut <;> simp [Except.map]

theorem post_undone (o : Outbox) (webhook : Option String) (n : Notice) :
    (o.undone carrier jobs).post webhook n =
      ((o.post webhook n).1.map fun o => o.undone carrier jobs, (o.post webhook n).2) := by
  cases webhook with
  | none => rfl
  | some target =>
    simp only [post, accept_undone]
    cases o.accept ⟨target, n⟩ with
    | error e => rfl
    | ok taken => cases taken <;> rfl

end Outbox

namespace Monitor

variable (m : Monitor)

/-- The end is made as it would be without them. -/
theorem teardown_undone :
    (m.undone carrier jobs).teardown = (m.teardown.1.undone carrier jobs, m.teardown.2) := by
  cases htorn : m.tornDown with
  | true =>
    rw [teardown_of_tornDown htorn, teardown_of_tornDown]
    exact htorn
  | false =>
    rw [teardown_of_standing htorn, teardown_of_standing]
    · rfl
    · exact htorn

theorem close_undone :
    (m.undone carrier jobs).close =
      m.close.map fun closed => (closed.1.undone carrier jobs, closed.2) := by
  cases hlistening : m.listening with
  | true =>
    rw [close_of_listening hlistening, close_of_listening, teardown_undone]
    · rfl
    · exact hlistening
  | false =>
    rw [close_of_deaf hlistening, close_of_deaf]
    · rfl
    · exact hlistening

theorem stop_undone :
    (m.undone carrier jobs).stop = (m.stop.1.undone carrier jobs, m.stop.2) := by
  cases hlistening : m.listening with
  | true =>
    rw [stop_of_listening hlistening, stop_of_listening]
    · exact teardown_undone carrier jobs { m with stopping := true }
    · exact hlistening
  | false =>
    rw [stop_of_deaf hlistening, stop_of_deaf]
    · rfl
    · exact hlistening

theorem start_undone (refusal : Option Trouble) :
    let started := m.start refusal
    (m.undone carrier jobs).start refusal =
      (started.1, started.2.1.undone carrier jobs, started.2.2) := by
  -- the marks are the same, so both attempts come to the same case
  cases hcalled : m.listenCalled with
  | true =>
    rw [start_of_called _ hcalled, start_of_called]
    exact hcalled
  | false =>
    cases hstopping : m.stopping with
    | true =>
      rw [start_of_stopping _ hcalled hstopping, start_of_stopping]
      · rfl
      · exact hcalled
      · exact hstopping
    | false =>
      cases refusal with
      | some e =>
        rw [start_refused hcalled hstopping, start_refused]
        · rfl
        · exact hcalled
        · exact hstopping
      | none =>
        rw [start_opened hcalled hstopping, start_opened]
        · rfl
        · exact hcalled
        · exact hstopping

/-- A check has the same outcome without the deliveries. -/
theorem checkAt_undone (now : Moment) (i : Nat) :
    (m.undone carrier jobs).checkAt now i = (m.checkAt now i).map fun checked =>
      (checked.1, checked.2.1.undone carrier jobs, checked.2.2) := by
  unfold checkAt
  rw [show (m.undone carrier jobs).board = m.board from rfl, Option.map_map]
  refine congrArg (Option.map · _) (funext fun p => ?_)
  simp only [Function.comp_apply]
  rcases p.check m.board.verbose m.board.timeout now with ⟨e | ⟨_ | n, seen⟩, p'⟩
  · rfl
  · rfl
  · -- a notice is posted alike, for the queue grows at its other end
    simp only [undone, Outbox.post_undone]
    rcases m.outbox.post p'.webhook n with ⟨e | outbox, entries⟩ <;> rfl

theorem checkEach_undone (now : Moment) (places : List Nat) :
    let checked := m.checkEach now places
    (m.undone carrier jobs).checkEach now places =
      (checked.1, checked.2.1.undone carrier jobs, checked.2.2) := by
  induction places generalizing m with
  | nil => rfl
  | cons i rest ih =>
    simp only [checkEach, checkAt_undone]
    rcases m.checkAt now i with _ | ⟨e | notice, m', entries⟩
    · exact ih m
    · rfl
    · simp only [Option.map_some, ih]

theorem checkAll_undone (now : Moment) :
    let checked := m.checkAll now
    (m.undone carrier jobs).checkAll now =
      (checked.1, checked.2.1.undone carrier jobs, checked.2.2) :=
  m.checkEach_undone carrier jobs now _

end Monitor

namespace Life

variable (l : Life)

theorem check_undone (i : Nat) :
    (l.undone carrier jobs).check i = (l.check i).undone carrier jobs := by
  have hcheck := l.session.monitor.checkAt_undone carrier jobs l.session.now i
  unfold check
  rw [show (l.undone carrier jobs).session.monitor.checkAt (l.undone carrier jobs).session.now i =
    _ from hcheck]
  rcases l.session.monitor.checkAt l.session.now i with _ | ⟨_ | _, m, entries⟩ <;> rfl

theorem call_close_undone :
    (l.undone carrier jobs).call .close =
      ((l.call .close).1, (l.call .close).2.undone carrier jobs) := by
  have hclose := l.session.monitor.close_undone carrier jobs
  simp only [call, Session.call]
  rw [show (l.undone carrier jobs).session.monitor.close = _ from hclose]
  cases l.session.monitor.close <;> rfl

theorem call_checkAll_undone :
    (l.undone carrier jobs).call .checkAll =
      ((l.call .checkAll).1, (l.call .checkAll).2.undone carrier jobs) := by
  have hcheck := l.session.monitor.checkAll_undone carrier jobs l.session.now
  simp only [call, Session.call]
  rw [show (l.undone carrier jobs).session.monitor.checkAll (l.undone carrier jobs).session.now =
    _ from hcheck]
  rfl

theorem call_stop_undone :
    (l.undone carrier jobs).call .stop =
      ((l.call .stop).1, (l.call .stop).2.undone carrier jobs) := by
  have hstop := l.session.monitor.stop_undone carrier jobs
  simp only [call, Session.call]
  rw [show (l.undone carrier jobs).session.monitor.stop = _ from hstop]
  rfl

theorem listen_undone (refusal : Option Monitor.Trouble) :
    (l.undone carrier jobs).listen refusal =
      ((l.listen refusal).1, (l.listen refusal).2.undone carrier jobs) := by
  have hstart := l.session.monitor.start_undone carrier jobs refusal
  unfold listen
  simp only
  rw [show (l.undone carrier jobs).session.monitor.start refusal = _ from hstart]
  rcases l.session.monitor.start refusal with ⟨_ | _ | _ | _, m, entries⟩ <;> rfl

theorem fail_undone (systemError : Bool) (e : Monitor.Trouble) :
    (l.undone carrier jobs).fail systemError e =
      ((l.fail systemError e).1, (l.fail systemError e).2.undone carrier jobs) := by
  have htear := l.session.monitor.teardown_undone carrier jobs
  unfold fail
  rw [show (l.undone carrier jobs).session.monitor.teardown = _ from htear]
  rfl

/-- Every event but a delivery is blind to deliveries. -/
theorem act_undone {e : Event} (he : e ≠ .deliver) :
    (l.undone carrier jobs).act e = ((l.act e).1, (l.act e).2.undone carrier jobs) := by
  cases e with
  -- who answers and what is answered does not depend on the carrier or on the queue
  | setClock now | packet address => rfl
  | checkAll => exact l.call_checkAll_undone carrier jobs
  | close => exact l.call_close_undone carrier jobs
  | stop => exact l.call_stop_undone carrier jobs
  | listen refusal => exact l.listen_undone carrier jobs refusal
  | arrive address =>
    simp only [act]
    rw [show (l.undone carrier jobs).stage = l.stage from rfl]
    cases l.stage <;> rfl
  | fail systemError e =>
    simp only [act]
    rw [show (l.undone carrier jobs).stage = l.stage from rfl]
    cases l.stage with
    | idle | finished _ => rfl
    | receiving => exact l.fail_undone carrier jobs systemError e
  | begin =>
    simp only [act]
    rw [show (l.undone carrier jobs).loop = l.loop from rfl,
      show (l.undone carrier jobs).session.monitor.stopping = l.session.monitor.stopping from rfl]
    cases l.loop with
    | absent | checking _ => rfl
    | waiting => cases l.session.monitor.stopping <;> rfl
  | next =>
    simp only [act]
    rw [show (l.undone carrier jobs).loop = l.loop from rfl]
    cases l.loop with
    | absent | waiting => rfl
    | checking i => exact congrArg (Effect.silent, ·) (l.check_undone carrier jobs i)
  | deliver => exact absurd rfl he

/-- A delivery that is undone again has changed nothing. -/
theorem act_deliver_undone :
    (l.act .deliver).2.undone carrier (jobs ++ ((l.act .deliver).1.sent?.map Sent.job).toList) =
      l.undone carrier jobs := by
  cases hqueue : l.session.monitor.outbox.queue with
  | nil =>
    rw [l.act_deliver_of_nil hqueue]
    simp [Effect.sent?]
  | cons job rest =>
    rw [l.act_deliver_of_cons hqueue]
    simp [Life.undone, Monitor.undone, Outbox.undone, withMonitor, Effect.sent?, hqueue]

/-- A delivery is no answer to anybody. -/
theorem reply?_deliver : (l.act .deliver).1.reply? = none := by
  cases hqueue : l.session.monitor.outbox.queue with
  | nil => rw [l.act_deliver_of_nil hqueue]; rfl
  | cons job rest => rw [l.act_deliver_of_cons hqueue]; rfl

end Life

end Undone

/-! ## Lives without a worker -/

namespace Life

/-- All events but the deliveries. -/
def others (events : List Event) : List Event :=
  events.filter (· ≠ .deliver)

/-- A life whose deliveries are undone is the life of the same events without a worker. -/
theorem after_undone (l : Life) (carrier : Carrier) (jobs : List Job) (events : List Event) :
    (l.undone carrier jobs).after (others events) =
        (l.after events).undone carrier (jobs ++ (l.sent events).map Sent.job) ∧
      (l.undone carrier jobs).replies (others events) = l.replies events := by
  -- by the first event: a delivery adds its job to those that are to be undone
  induction events generalizing l jobs with
  | nil =>
    constructor
    · exact congrArg (l.undone carrier) (List.append_nil jobs).symm
    · rfl
  | cons e events ih =>
    by_cases he : e = .deliver
    · subst he
      obtain ⟨hafter, hreplies⟩ :=
        ih (l.act .deliver).2 (jobs ++ ((l.act .deliver).1.sent?.map Sent.job).toList)
      rw [act_deliver_undone] at hafter hreplies
      rw [others, List.filter_cons_of_neg (by simp), l.replies_cons, l.sent_cons,
        l.reply?_deliver, List.map_append, ← List.append_assoc, ← Option.toList_map]
      exact ⟨hafter, hreplies⟩
    · have hact := l.act_undone carrier jobs he
      obtain ⟨hafter, hreplies⟩ := ih (l.act e).2 jobs
      rw [others, List.filter_cons_of_pos (by simpa using he), l.replies_cons, l.sent_cons,
        l.sent?_act he, replies_cons, after_cons, hact]
      exact ⟨hafter, congrArg ((l.act e).1.reply?.toList ++ ·) hreplies⟩

/-- Two lives that differ in their carriers only. -/
def Twins (l l' : Life) : Prop :=
  l'.undone l.session.monitor.outbox.carrier [] = l

variable {l l' : Life} {events events' : List Event}

/-- Twins are the same life but for what was delivered. -/
theorem Twins.undone_eq (h : l.Twins l') (carrier : Carrier) (jobs : List Job) :
    l.undone carrier jobs = l'.undone carrier jobs := by
  unfold Twins at h
  rw [← h]
  rfl

/-- Twins stay twins, except for what their workers have yet to do. -/
theorem Twins.after (h : l.Twins l')
    (hothers : others events = others events') (carrier : Carrier) :
    (l.after events).undone carrier ((l.sent events).map Sent.job) =
        (l'.after events').undone carrier ((l'.sent events').map Sent.job) ∧
      l.replies events = l'.replies events' := by
  obtain ⟨hafter, hreplies⟩ := l.after_undone carrier [] events
  obtain ⟨hafter', hreplies'⟩ := l'.after_undone carrier [] events'
  rw [hothers, h.undone_eq] at hafter hreplies
  exact ⟨hafter.symm.trans hafter', hreplies.symm.trans hreplies'⟩

/-- Between them, twins deliver and keep the same jobs. -/
theorem Twins.attempts (h : l.Twins l')
    (hothers : others events = others events') :
    (l.sent events).map Sent.job ++ (l.after events).session.monitor.outbox.queue =
      (l'.sent events').map Sent.job ++ (l'.after events').session.monitor.outbox.queue :=
  congrArg (fun x => x.session.monitor.outbox.queue)
    (h.after hothers l.session.monitor.outbox.carrier).1

/-- A delivery takes the first job of the queue. -/
theorem sent?_deliver (l : Life) :
    (l.act .deliver).1.sent?.map Sent.job = l.session.monitor.outbox.queue.head? := by
  cases hqueue : l.session.monitor.outbox.queue with
  | nil => rw [l.act_deliver_of_nil hqueue]; rfl
  | cons job rest => rw [l.act_deliver_of_cons hqueue]; rfl

/-- Workers who take their turns alike attempt the same deliveries. -/
theorem Twins.sent (h : l.Twins l') (events : List Event) :
    (l.sent events).map Sent.job = (l'.sent events).map Sent.job := by
  induction events using List.reverseRecOn with
  | nil => rfl
  | append_singleton events e ih =>
    rw [sent_snoc, sent_snoc, List.map_append, List.map_append, ih]
    by_cases he : e = .deliver
    · -- the same has been attempted and the same is left, so the same job is next
      subst he
      have hqueue := h.attempts (rfl : others events = others events)
      rw [ih] at hqueue
      rw [← Option.toList_map, ← Option.toList_map, sent?_deliver, sent?_deliver,
        List.append_cancel_left hqueue]
    · rw [sent?_act _ he, sent?_act _ he]

end Life

/-! ## What is posted -/

namespace Life

/-- Nobody but the worker has to do with the carrier. -/
theorem carrier_act (l : Life) {e : Event} (he : e ≠ .deliver) :
    (l.act e).2.session.monitor.outbox.carrier = l.session.monitor.outbox.carrier := by
  have hact := congrArg Prod.snd (l.act_undone l.session.monitor.outbox.carrier [] he)
  exact congrArg (fun x => x.session.monitor.outbox.carrier) hact

/-- What a carrier asks for is the same all its life. -/
theorem requests_act (l : Life) (e : Event) :
    (l.act e).2.session.monitor.outbox.carrier.requests =
      l.session.monitor.outbox.carrier.requests := by
  by_cases he : e = .deliver
  · subst he
    cases hqueue : l.session.monitor.outbox.queue with
    | nil => rw [l.act_deliver_of_nil hqueue]
    | cons job rest =>
      rw [l.act_deliver_of_cons hqueue]
      exact Carrier.requests_carry _ _ _
  · rw [l.carrier_act he]

/-- Every delivery makes the requests that it would make if it were the only one. -/
theorem posts_of_mem_sent {l : Life} {events : List Event} {d : Sent} (hd : d ∈ l.sent events) :
    d.posts = l.session.monitor.outbox.carrier.requests d.job.notice d.job.target := by
  induction events generalizing l with
  | nil => cases hd
  | cons e events ih =>
    rw [sent_cons] at hd
    rcases List.mem_append.mp hd with hfirst | hlater
    · -- only the worker sends, and it posts what its carrier asks for
      by_cases he : e = .deliver
      · subst he
        cases hqueue : l.session.monitor.outbox.queue with
        | nil =>
          rw [l.act_deliver_of_nil hqueue] at hfirst
          cases hfirst
        | cons job rest =>
          rw [l.act_deliver_of_cons hqueue] at hfirst
          obtain rfl := List.mem_singleton.mp hfirst
          rfl
      · rw [sent?_act l he] at hfirst
        cases hfirst
    · rw [ih hlater, requests_act]

/-! ## Two runs

The two monitors are built around the same board. They differ in their carriers alone, which is a
delivery that can be undone. -/

/-- A monitor around one carrier is a monitor around another, with its deliveries undone. -/
theorem around_undone (c : Settings) (address : String) (board : Board)
    (carrier carrier' : Carrier) :
    (Monitor.around c address board carrier).undone carrier' [] =
      Monitor.around c address board carrier' := by
  simp only [Monitor.around, Monitor.undone, Outbox.undone, Outbox.new, List.nil_append]

/-- **Deliveries are not seen.** A monitor is built twice from one configuration, with any two
carriers, and lives through the same events but for the turns of its worker. Everybody who calls
gets the same replies, which are those of a life without any delivery, so that no error of a
delivery comes out; the boards, the clocks and the marks of beginning and end are the same. The
deliveries attempted and those still in the queue are the same jobs in the same order, and if the
worker takes its turns alike, so are the deliveries attempted. Each makes the requests that it would
make alone, and carriers that differ only in their clients, whatever these answer, make the same
requests. -/
theorem deliveries_unseen {c : Settings} (hc : c.Buildable) {address : String}
    (haddress : address ≠ "") (verbose : Bool) (carrier carrier' : Carrier) (start : Moment)
    (steady : Binary64) :
    ∃ m m', Monitor.build c address verbose (.ok carrier) = .ok m ∧
      Monitor.build c address verbose (.ok carrier') = .ok m' ∧
      ∀ events events' : List Event, others events = others events' →
        let l := Life.new ⟨m, start, steady⟩
        let l' := Life.new ⟨m', start, steady⟩
        let s := (l.after events).session
        let s' := (l'.after events').session
        l.replies events = l'.replies events' ∧ l.replies events = l.replies (others events) ∧
        s.watched = s'.watched ∧ s.status = s'.status ∧
        (l.after events).stage = (l'.after events').stage ∧
        (l.sent events).map Sent.job ++ s.monitor.outbox.queue =
          (l'.sent events').map Sent.job ++ s'.monitor.outbox.queue ∧
        (events = events' → (l.sent events).map Sent.job = (l'.sent events').map Sent.job) ∧
        (∀ d ∈ l.sent events, d.posts = carrier.requests d.job.notice d.job.target) ∧
        (∀ d ∈ l'.sent events', d.posts = carrier'.requests d.job.notice d.job.target) ∧
        (∀ channel agent t t', carrier = .channel channel agent t →
          carrier' = .channel channel agent t' → carrier.requests = carrier'.requests) := by
  obtain ⟨m, hbuild, -⟩ := Monitor.exists_build hc haddress verbose carrier
  obtain ⟨m', hbuild', -⟩ := Monitor.exists_build hc haddress verbose carrier'
  refine ⟨m, m', hbuild, hbuild', ?_⟩
  obtain ⟨-, board, _, hboard, hcarrier, rfl⟩ := Monitor.build_eq_ok_iff.mp hbuild
  obtain ⟨-, board', _, hboard', hcarrier', rfl⟩ := Monitor.build_eq_ok_iff.mp hbuild'
  -- one board for both, read from the one configuration
  obtain rfl : board = board' := Except.ok.inj (hboard.symm.trans hboard')
  obtain rfl := Except.ok.inj hcarrier
  obtain rfl := Except.ok.inj hcarrier'
  intro events events' hothers l l' s s'
  have htwins : l.Twins l' :=
    congrArg (fun m => Life.new ⟨m, start, steady⟩) (around_undone c address board carrier' carrier)
  have hself : l.undone carrier [] = l :=
    congrArg (fun m => Life.new ⟨m, start, steady⟩) (around_undone c address board carrier carrier)
  obtain ⟨hafter, hreplies⟩ := htwins.after hothers carrier
  have hblind := (l.after_undone carrier [] events).2
  rw [hself] at hblind
  refine ⟨hreplies, hblind.symm, ?_, ?_, ?_, htwins.attempts hothers, ?_,
    fun _ => posts_of_mem_sent, fun _ => posts_of_mem_sent, ?_⟩
  · exact congrArg (fun x => x.session.watched) hafter
  · exact congrArg (fun x => x.session.status) hafter
  · exact congrArg (fun x => x.stage) hafter
  · rintro rfl
    exact htwins.sent events
  · rintro channel agent t t' rfl rfl
    rw [Carrier.requests_channel, Carrier.requests_channel]

/-- One worker comes upon an error at once and another delivers after the monitor was stopped: the
notice is the same, and nobody can tell. -/
theorem deliveries_unseen_late :
    let c : Settings :=
      ⟨1, 1, "1s", "5s", "", ⟨"slack", []⟩, [⟨"A", "10.0.0.0/24", 0, 0, "http://a"⟩]⟩
    let start : Moment := ⟨0, some .utc⟩
    let e : CarryError := .transport "RuntimeError" "boom"
    let events : List Event := [.packet "10.0.0.5", .checkAll, .checkAll, .deliver, .stop]
    let events' : List Event := [.packet "10.0.0.5", .checkAll, .checkAll, .stop, .deliver]
    ∃ m m', Monitor.build c "0.0.0.0" false (.ok (.rehearsal [.raised e] 0)) = .ok m ∧
      Monitor.build c "0.0.0.0" false (.ok (.rehearsal [.delivered] 0)) = .ok m' ∧
      let l := Life.new ⟨m, start, .finite false 0⟩
      let l' := Life.new ⟨m', start, .finite false 0⟩
      l.replies events = l'.replies events' ∧
      (l.sent events).map Sent.job = (l'.sent events').map Sent.job ∧
      ((l.sent events).map fun d => (d.job.target, d.job.notice.newState, d.outcome)) =
        [("http://a", "Up", .raised e)] ∧
      (l'.sent events').map Sent.outcome = [.delivered] := by
  intro c start e events events'
  let range : Net.Range := .around (.ofQuad 167772160) 24 (by decide)
  have hc : c.Buildable := .of_singleton range rfl (by decide)
  obtain ⟨m, m', hbuild, hbuild', hunseen⟩ := @deliveries_unseen c hc "0.0.0.0" (by decide) false
    (.rehearsal [.raised e] 0) (.rehearsal [.delivered] 0) start (.finite false 0)
  obtain ⟨hreplies, -, -, -, -, hattempts, -⟩ := hunseen events events' (by decide)
  let peers : List Peer := [⟨"A", range, some "http://a", .start ⟨1, 1⟩, none, .free⟩]
  obtain rfl := Monitor.eq_around_of_build hbuild peers rfl
  obtain rfl := Monitor.eq_around_of_build hbuild' peers rfl
  refine ⟨_, _, hbuild, hbuild', hreplies, ?_, ?_, ?_⟩
  · -- both queues are empty in the end
    have hempty : ∀ {jobs queue : List Job}, queue = [] → jobs ++ queue = jobs := by
      rintro jobs _ rfl
      exact List.append_nil jobs
    rw [hempty (by decide +kernel), hempty (by decide +kernel)] at hattempts
    exact hattempts
  · decide +kernel
  · decide +kernel

end Life

end EchoWatch
