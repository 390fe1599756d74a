import EchoWatch.Watch.Life
import Mathlib.Data.List.Induction
/-!
# Runs of a life

What a life shows over some events is what it shows at the first of them and then over the rest, or
over the first of them and then at the last.
-/

namespace EchoWatch
namespace Life

variable (l : Life)

theorem after_cons (e : Event) (events : List Event) :
    l.after (e :: events) = (l.act e).2.after events :=
  rfl

theorem after_append (events later : List Event) :
    l.after (events ++ later) = (l.after events).after later :=
  List.foldl_append

theorem after_snoc (events : List Event) (e : Event) :
    l.after (events ++ [e]) = ((l.after events).act e).2 :=
  l.after_append events [e]

/-- What is shown over some events and then others. -/
theorem effects_append (events later : List Event) :
    l.effects (events ++ later) = l.effects events ++ (l.after events).effects later := by
  induction events generalizing l with
  | nil => rfl
  | cons e events ih =>
    rw [List.cons_append, effects, ih, effects, after_cons]
    rfl

/-- What is sent over some events and then others. -/
theorem sent_append (events later : List Event) :
    l.sent (events ++ later) = l.sent events ++ (l.after events).sent later := by
  rw [sent, effects_append, List.filterMap_append]
  rfl

theorem sent_singleton (e : Event) : l.sent [e] = (l.act e).1.sent?.toList := by
  unfold sent effects effects
  cases h : (l.act e).1.sent? <;> simp [h]

/-- What is sent at the first event comes first. -/
theorem sent_cons (e : Event) (events : List Event) :
    l.sent (e :: events) = (l.act e).1.sent?.toList ++ (l.act e).2.sent events := by
  rw [← sent_singleton]
  exact l.sent_append [e] events

theorem sent_snoc (events : List Event) (e : Event) :
    l.sent (events ++ [e]) = l.sent events ++ ((l.after events).act e).1.sent?.toList := by
  rw [sent_append, sent_singleton]

/-- What is answered at the first event comes first. -/
theorem replies_cons (e : Event) (events : List Event) :
    l.replies (e :: events) = (l.act e).1.reply?.toList ++ (l.act e).2.replies events := by
  unfold replies
  rw [effects]
  cases h : (l.act e).1.reply? <;> simp [h]

/-- Only the worker delivers. -/
theorem sent?_act {e : Event} (he : e ≠ .deliver) : (l.act e).1.sent? = none := by
  cases e with
  | setClock _ | packet _ | checkAll | close | stop => rfl
  | listen refusal =>
    simp only [act, listen]
    split <;> rfl
  | arrive _ | fail _ _ =>
    simp only [act]
    split <;> rfl
  | begin | next =>
    simp only [act]
    split <;> rfl
  | deliver => exact absurd rfl he

/-! ## Deliveries

The worker takes its jobs at any point of a life. What it does depends on nothing but the queue and
the carrier. -/

/-- The worker has nothing to do when the queue is empty. -/
theorem act_deliver_of_nil (h : l.session.monitor.outbox.queue = []) :
    l.act .deliver = (.silent, l) := by
  simp only [act, deliver, Outbox.work, Outbox.take, h]
  rfl

/-- The worker delivers the first job of the queue, and puts nothing into it. -/
theorem act_deliver_of_cons {job : Job} {rest : List Job}
    (h : l.session.monitor.outbox.queue = job :: rest) :
    let m := l.session.monitor
    let carried := m.outbox.carrier.carry job.notice job.target
    let posts := carried.2.calls.drop m.outbox.carrier.calls.length
    let outbox : Outbox := { m.outbox with queue := rest, carrier := carried.2 }
    l.act .deliver = (.sent ⟨job, carried.1.outcome, posts⟩,
      l.withMonitor { m with outbox := outbox }) := by
  simp only [act, deliver, Outbox.work, Outbox.take, h]
  rfl

end Life
end EchoWatch
