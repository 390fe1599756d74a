import EchoWatch.Delivery.Outbox
/-!
# The office

Many threads use one outbox: callers post notices and close it, and the workers of a crew deliver.
`Outbox.Office` puts them around it and follows them move by move. A caller who posts announces the
notice first and passes the lock of the outbox later; a caller who closes takes that lock first and
shuts the queue later. What is done while the lock is held is one move, and between two moves of one
thread any other moves may come.

A worker has a job in hand from the move that takes it out of the queue to the move that ends its
delivery, and only then is it known how the delivery ended.
-/

namespace EchoWatch
namespace Outbox

/-- How far a call that posts a notice has come. -/
inductive Poster.Stage where
  /-- The notice is announced, and the lock is still ahead. -/
  | announced
  | returned
  | refused (e : Refusal)
  deriving DecidableEq, Repr

/-- A call that posts a notice for a peer with the given webhook. -/
structure Poster where
  webhook : Option String
  notice : Notice
  stage : Poster.Stage
  deriving DecidableEq, Repr

/-- How far a call that closes the outbox has come. -/
inductive Closer.Stage where
  /-- Accepting is ended, and the queue is still to be shut. -/
  | locked
  /-- The queue is shut, and the crew is waited for. -/
  | waiting
  | returned
  deriving DecidableEq, Repr

/-- A call that closes the outbox; it may wait for what is still to be delivered. -/
structure Closer where
  wait : Bool
  stage : Closer.Stage
  deriving DecidableEq, Repr

/-- An outbox with its callers, in the order of their arrival, and with its crew. -/
structure Office where
  outbox : Outbox
  /-- How many workers there are. -/
  crew : Nat
  posters : List Poster
  closers : List Closer
  /-- The posters whose notices went into the queue, in this order. -/
  accepted : List Nat
  /-- The jobs that workers took, in this order. -/
  taken : List Job
  /-- The jobs that workers have in hand. -/
  inHand : List Job
  /-- The deliveries that ended, in this order. -/
  ended : List (Job × Outcome)
  journal : List Entry

namespace Office

def new (carrier : Carrier) (crew : Nat) : Office :=
  { outbox := .new carrier, crew, posters := [], closers := [], accepted := [], taken := []
    inHand := [], ended := [], journal := [] }

/-- Nothing waits for delivery, and no delivery is under way. -/
def Settled (o : Office) : Prop :=
  o.outbox.queue = [] ∧ o.inHand = []

instance (o : Office) : Decidable o.Settled :=
  inferInstanceAs (Decidable (_ ∧ _))

inductive Move where
  /-- A caller arrives and announces a notice. -/
  | post (webhook : Option String) (n : Notice)
  /-- The poster at a position passes the lock. -/
  | enter (poster : Nat)
  /-- A caller arrives and ends accepting under the lock. -/
  | close (wait : Bool)
  /-- The closer at a position shuts the queue. -/
  | shut (closer : Nat)
  /-- The closer at a position has waited long enough. -/
  | leave (closer : Nat)
  /-- An idle worker takes the first job. -/
  | take
  /-- The worker with the job at a position ends its delivery. -/
  | finish (job : Nat) (outcome : Outcome)
  deriving DecidableEq, Repr

/-- A poster who passes the lock. -/
def enter (o : Office) (i : Nat) (p : Poster) (target : String) : Office :=
  let posters (stage : Poster.Stage) := o.posters.set i { p with stage := stage }
  match o.outbox.accept ⟨target, p.notice⟩ with
  | .ok (some outbox) =>
    { o with outbox := outbox, posters := posters .returned, accepted := o.accepted ++ [i] }
  | .ok none =>
    { o with posters := posters .returned, journal := o.journal ++ [dropped p.notice] }
  | .error e => { o with posters := posters (.refused e) }

/-- The office after a move; a move that its thread cannot make changes nothing. -/
def step (o : Office) : Move → Office
  | .post webhook n =>
    let stage : Poster.Stage := if webhook.isSome then .announced else .returned
    { o with
      posters := o.posters ++ [⟨webhook, n, stage⟩]
      journal := o.journal ++ [announcement n] }
  | .enter i =>
    match o.posters[i]? with
    | some ⟨some target, n, .announced⟩ => o.enter i ⟨some target, n, .announced⟩ target
    | _ => o
  | .close wait =>
    { o with outbox := o.outbox.stopAccepting, closers := o.closers ++ [⟨wait, .locked⟩] }
  | .shut j =>
    match o.closers[j]? with
    | some ⟨wait, .locked⟩ =>
      let stage : Closer.Stage := if wait then .waiting else .returned
      { o with outbox := o.outbox.shutQueue, closers := o.closers.set j ⟨wait, stage⟩ }
    | _ => o
  | .leave j =>
    match o.closers[j]? with
    | some ⟨wait, .waiting⟩ =>
      if o.Settled then { o with closers := o.closers.set j ⟨wait, .returned⟩ } else o
    | _ => o
  | .take =>
    if o.inHand.length < o.crew then
      match o.outbox.take with
      | some (job, outbox) =>
        { o with outbox := outbox, taken := o.taken ++ [job], inHand := o.inHand ++ [job] }
      | none => o
    else o
  | .finish k outcome =>
    match o.inHand[k]? with
    | some job =>
      let said := verdict o.outbox.carrier.className job outcome
      { o with
        inHand := o.inHand.eraseIdx k
        ended := o.ended ++ [(job, outcome)]
        journal := o.journal ++ said.map (Entry.on .notify) }
    | none => o

/-- The office after some moves. -/
def run (o : Office) (moves : List Move) : Office :=
  moves.foldl step o

end Office
end Outbox
end EchoWatch
