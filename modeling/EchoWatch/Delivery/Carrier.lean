import EchoWatch.Delivery.Request
/-!
# Carriers

A carrier brings notices to their targets. The carrier of a channel asks a client to post requests;
a rehearsal plays given outcomes. Either way a delivery ends in one of three ways: it was made, it
was not made, or an error came up.

The client comes from outside, and so do its answers. It follows redirections by itself: what it
answers is what came of a request in the end.
-/

namespace EchoWatch

/-- An error that comes up in a delivery. -/
inductive CarryError where
  | build (b : Request.Break)
  /-- An error of the client that is no failure of a request: its kind and its message. -/
  | transport (kind message : String)
  deriving DecidableEq, Repr

def CarryError.message : CarryError → String
  | .build b => b.message
  | .transport _ message => message

/-- The end of a delivery. -/
inductive Outcome where
  | delivered
  | undelivered
  | raised (e : CarryError)
  deriving DecidableEq, Repr

/-- What a client makes of a request. -/
inductive Answer where
  /-- The status of the last answer, after all redirections. -/
  | status (code : Int)
  /-- The request is refused, or fails on the way. -/
  | failure
  | error (e : CarryError)
  deriving DecidableEq, Repr

/-- What a client answers to a request, after all that it was asked before. -/
abbrev Client := List Post → Post → Answer

/-- A client at work, with all that it was asked to post, in this order. -/
structure Transport where
  client : Client
  calls : List Post := []

namespace Transport

/-- A client that has not been asked for anything. -/
def fresh (client : Client) : Transport :=
  { client }

/-- Asks the client to post a request. -/
def call (t : Transport) (p : Post) : Answer × Transport :=
  (t.client t.calls p, { t with calls := t.calls ++ [p] })

end Transport

namespace Client

/-- How the client builds a request. -/
def buildOf (p : Post) : Request.Build :=
  Request.build p.target p.headers p.payload

/-- A client that builds requests as `Request.build` does. The answers come in turn, over and over,
for the requests that go out; without any, every request is answered with success. -/
def scripted (answers : List Answer) : Client := fun earlier p =>
  match buildOf p with
  | .broken b => .error (.build b)
  | .refused => .failure
  | .ready =>
    let turn := earlier.countP (buildOf · = .ready)
    (answers[turn % answers.length]?).getD (.status 200)

end Client

/-- A status that tells of a failure. -/
def isErrorStatus (code : Int) : Bool :=
  400 ≤ code && code < 600

/-- What an answer makes of a delivery. -/
def Answer.outcome : Answer → Outcome
  | .status code => if isErrorStatus code then .undelivered else .delivered
  | .failure => .undelivered
  | .error e => .raised e

inductive Carrier where
  | channel (c : Channel) (agent : String) (t : Transport)
  /-- Plays outcomes in turn, over and over. -/
  | rehearsal (outcomes : List Outcome) (turn : Nat)

/-- A delivery: its end, and what it wrote to the journal. -/
structure Delivery where
  outcome : Outcome
  entries : List Entry

namespace Carrier

/-- The part of the program that posts requests. -/
def source : String := "woodwatch.notifiers.webhook"

/-- The name that the journal gives a carrier. -/
def className : Carrier → String
  | channel c _ _ => c.kind.className
  | rehearsal _ _ => "ScriptedNotifier"

/-- What the journal says about a request that got its answer or was refused. -/
def report (n : Notice) (target : String) : Outcome → List Entry
  | .delivered =>
    let title := n.title
    [.info source s!"Webhook event \x27{title}\x27 sent to {target}"]
  | .undelivered =>
    let title := n.title
    [.failure source s!"Failed to send webhook event \x27{title}\x27 to {target}"]
  | .raised _ => []

/-- Delivers a notice over a channel. The notice is looked at first; headers that are no mapping, or
a body that there is not, are errors before the client is asked for anything. -/
def post (c : Channel) (agent : String) (t : Transport) (n : Notice) (target : String) :
    Delivery × Transport :=
  match n.flaw? with
  | some flaw =>
    let reason := flaw.message
    (⟨.undelivered, [.warning source s!"Not sending invalid event to {target}: {reason}"]⟩, t)
  | none =>
    match c.headers agent with
    | .error v => (⟨.raised (.build (.headersNotMapping (Request.fullKindName v))), []⟩, t)
    | .ok headers =>
      match c.body? n with
      | none => (⟨.raised (.build .outOfCalendar), []⟩, t)
      | some body =>
        let (answer, t) := t.call ⟨target, body, headers, c.timeout⟩
        (⟨answer.outcome, report n target answer.outcome⟩, t)

def carry (carrier : Carrier) (n : Notice) (target : String) : Delivery × Carrier :=
  match carrier with
  | channel c agent t =>
    let (d, t) := post c agent t n target
    (d, channel c agent t)
  | rehearsal outcomes turn =>
    match outcomes[turn % outcomes.length]? with
    | some o => (⟨o, []⟩, rehearsal outcomes (turn + 1))
    | none => (⟨.delivered, []⟩, rehearsal outcomes turn)

/-- What a carrier has asked its client to post. -/
def calls : Carrier → List Post
  | channel _ _ t => t.calls
  | rehearsal _ _ => []

end Carrier
end EchoWatch
