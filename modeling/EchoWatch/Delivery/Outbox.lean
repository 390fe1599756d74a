import EchoWatch.Delivery.Carrier
/-!
# The outbox

Whoever posts a notice never waits for its delivery. A notice is announced in the journal at once;
if its peer has a webhook it is put into the queue of a worker, which delivers the notices in the
order in which they were accepted. How a delivery ends is seen in the journal only.

Closing has two steps: first no more notices are accepted, then the worker's queue is shut. What was
accepted before is still delivered. A queue that is shut refuses work; since accepting ends first,
nobody ever sees that.
-/

namespace EchoWatch

/-- A notice on its way to a target. -/
structure Job where
  target : String
  notice : Notice
  deriving DecidableEq, Repr

/-- A delivery that was made: what and where to, how it ended, and what was posted for it. -/
structure Sent where
  job : Job
  outcome : Outcome
  posts : List Post

structure Outbox where
  carrier : Carrier
  queue : List Job
  /-- No more notices are accepted. -/
  closed : Bool
  /-- The queue refuses work. -/
  shut : Bool

namespace Outbox

/-- The part of the program that posts and delivers. -/
def source : String := "woodwatch.dispatch"

def new (carrier : Carrier) : Outbox :=
  ⟨carrier, [], false, false⟩

/-- A queue that is shut got work. -/
inductive Refusal where
  | queueShut
  deriving DecidableEq, Repr

def Refusal.message : Refusal → String
  | .queueShut => "cannot schedule new futures after shutdown"

def submit (o : Outbox) (job : Job) : Except Refusal Outbox :=
  if o.shut then .error .queueShut else .ok { o with queue := o.queue ++ [job] }

def announcement (n : Notice) : Entry :=
  .info source n.title

/-- What the journal says about a notice that came too late. -/
def dropped (n : Notice) : Entry :=
  let title := n.title
  .debug source s!"Dispatcher closed, dropping event \x27{title}\x27"

/-- Puts a job into the queue, unless accepting has ended. -/
def accept (o : Outbox) (job : Job) : Except Refusal (Option Outbox) :=
  if o.closed then .ok none else (o.submit job).map some

/-- Posts a notice for a peer with the given webhook. -/
def post (o : Outbox) (webhook : Option String) (n : Notice) :
    Except Refusal Outbox × List Entry :=
  match webhook with
  | none => (.ok o, [announcement n])
  | some target =>
    match o.accept ⟨target, n⟩ with
    | .ok (some o) => (.ok o, [announcement n])
    | .ok none => (.ok o, [announcement n, dropped n])
    | .error e => (.error e, [announcement n])

/-- Ends accepting. -/
def stopAccepting (o : Outbox) : Outbox :=
  { o with closed := true }

def shutQueue (o : Outbox) : Outbox :=
  { o with shut := true }

def close (o : Outbox) : Outbox :=
  o.stopAccepting.shutQueue

/-- What the journal says about a job that was not delivered. -/
def notDelivered (className : String) (job : Job) : Entry :=
  let title := job.notice.title
  let target := job.target
  .warning source s!"Notifier {className} did not deliver \x27{title}\x27 to {target}"

/-- What the journal says about a job whose delivery came upon an error. -/
def brokeDown (className : String) (job : Job) : Entry :=
  let title := job.notice.title
  .failure source s!"Error delivering \x27{title}\x27 via {className}"

/-- What the journal says about the end of a delivery, beside what the carrier wrote. -/
def verdict (className : String) (job : Job) : Outcome → List Entry
  | .delivered => []
  | .undelivered => [notDelivered className job]
  | .raised _ => [brokeDown className job]

/-- The first job of the queue, and the outbox without it. -/
def take (o : Outbox) : Option (Job × Outbox) :=
  match o.queue with
  | [] => none
  | job :: rest => some (job, { o with queue := rest })

/-- The worker delivers the first job of the queue. -/
def work (o : Outbox) : Option (Sent × List Entry × Outbox) :=
  o.take.map fun (job, o) =>
    let (d, carrier) := o.carrier.carry job.notice job.target
    (⟨job, d.outcome, carrier.calls.drop o.carrier.calls.length⟩,
      (d.entries ++ verdict o.carrier.className job d.outcome).map (Entry.on .notify),
      { o with carrier := carrier })

/-- The worker delivers a number of jobs. -/
def workAll (o : Outbox) : Nat → List Sent × List Entry × Outbox
  | 0 => ([], [], o)
  | n + 1 =>
    match o.work with
    | none => ([], [], o)
    | some (sent, entries, o) =>
      let (more, later, o) := workAll o n
      (sent :: more, entries ++ later, o)

/-- The worker empties the queue. -/
def drain (o : Outbox) : List Sent × List Entry × Outbox :=
  o.workAll o.queue.length

end Outbox
end EchoWatch
