import EchoWatch.Watch.Session
/-!
# The life of a monitor

Several threads share a monitor from the moment it is built: one calls `listen`, receives packets
and makes the end when the source fails; one runs the loop of checks meanwhile; one delivers what is
in the outbox; and any others call the monitor as they like. A `Life` follows them event by event.

The calls are atomic, and so is the beginning of listening. A pass of the loop is not: it checks one
peer after the other, and whatever else happens may come between two of them, the end of listening
included.
-/

namespace EchoWatch

/-- How far listening has come. -/
inductive Life.Stage where
  /-- Nobody has listened yet. -/
  | idle
  /-- The source is open, and whoever listens receives from it. -/
  | receiving
  /-- Listening is over, by itself or with an error. -/
  | finished (error : Option Session.CallError)
  deriving DecidableEq, Repr

/-- What the loop of checks is doing. -/
inductive Life.Loop where
  /-- It has not been started, or a failing check has ended it. -/
  | absent
  | waiting
  /-- A pass is under way, and this peer is next. -/
  | checking (i : Nat)
  deriving DecidableEq, Repr

structure Life where
  session : Session
  stage : Life.Stage
  loop : Life.Loop
  /-- How often the source was asked for. -/
  openings : Nat

namespace Life

inductive Event where
  | setClock (now : Moment)
  | packet (address : String)
  | checkAll
  | close
  | stop
  /-- A caller listens; `refusal` is what opening the source would fail with. -/
  | listen (refusal : Option Monitor.Trouble)
  /-- The source yields the address of a packet. -/
  | arrive (address : String)
  /-- The source fails with a system's error, or with another one. -/
  | fail (systemError : Bool) (e : Monitor.Trouble)
  /-- The loop begins a pass. -/
  | begin
  /-- The loop checks the next peer, or ends its pass. -/
  | next
  /-- The worker of the outbox delivers a job. -/
  | deliver
  deriving DecidableEq, Repr

/-- What an event shows: the reply to a call that comes back, or a delivery. -/
inductive Effect where
  | silent
  | replied (r : Session.Reply)
  | sent (d : Sent)

def Effect.reply? : Effect → Option Session.Reply
  | .replied r => some r
  | _ => none

def Effect.sent? : Effect → Option Sent
  | .sent d => some d
  | _ => none

/-- A monitor that nobody has called. -/
def new (s : Session) : Life :=
  ⟨s, .idle, .absent, 0⟩

def withMonitor (l : Life) (m : Monitor) : Life :=
  { l with session := { l.session with monitor := m } }

/-- A caller calls the monitor. -/
def call (l : Life) (c : Session.Call) : Effect × Life :=
  let (reply, s, _) := l.session.call c
  (.replied reply, { l with session := s })

/-- Listening ends with an error or by itself, and so does the call. -/
def ends (l : Life) (error : Option Session.CallError) : Effect × Life :=
  (.replied (error.elim .nothing .error), { l with stage := .finished error })

def listen (l : Life) (refusal : Option Monitor.Trouble) : Effect × Life :=
  let m := l.session.monitor
  let l := { l with openings := l.openings + if m.opens then 1 else 0 }
  match m.start refusal with
  | (.alreadyListening, m, _) => (.replied (.error .alreadyListening), l.withMonitor m)
  | (.stoppedBefore, m, _) => (l.withMonitor m).ends none
  | (.refused e, m, _) => (l.withMonitor m).ends (some (.outside e))
  | (.opened, m, _) => (.silent, { l.withMonitor m with stage := .receiving, loop := .waiting })

/-- The source fails, and whoever listens makes the end. -/
def fail (l : Life) (systemError : Bool) (e : Monitor.Trouble) : Effect × Life :=
  (l.withMonitor l.session.monitor.teardown.1).ends (l.session.failed systemError e)

/-- The loop checks a peer. A check that fails ends the loop, and behind the last peer the pass is
done. -/
def check (l : Life) (i : Nat) : Life :=
  match l.session.monitor.checkAt l.session.now i with
  | none => { l with loop := .waiting }
  | some (.ok _, m, _) => { l.withMonitor m with loop := .checking (i + 1) }
  | some (.error _, m, _) => { l.withMonitor m with loop := .absent }

def deliver (l : Life) : Effect × Life :=
  let m := l.session.monitor
  match m.outbox.work with
  | none => (.silent, l)
  | some (d, _, outbox) => (.sent d, l.withMonitor { m with outbox := outbox })

/-- What an event shows, and what it makes of a life. What cannot happen changes nothing. -/
def act (l : Life) : Event → Effect × Life
  | .setClock now => l.call (.setClock now)
  | .packet address => l.call (.packet address)
  | .checkAll => l.call .checkAll
  | .close => l.call .close
  | .stop => l.call .stop
  | .listen refusal => l.listen refusal
  | .arrive address =>
    match l.stage with
    | .receiving => (.silent, { l with session := (l.session.packet address).2.1 })
    | _ => (.silent, l)
  | .fail systemError e =>
    match l.stage with
    | .receiving => l.fail systemError e
    | _ => (.silent, l)
  | .begin =>
    match l.loop with
    | .waiting =>
      (.silent, if l.session.monitor.stopping then l else { l with loop := .checking 0 })
    | _ => (.silent, l)
  | .next =>
    match l.loop with
    | .checking i => (.silent, l.check i)
    | _ => (.silent, l)
  | .deliver => l.deliver

/-- A life after some events. -/
def after (l : Life) (events : List Event) : Life :=
  events.foldl (fun l e => (l.act e).2) l

/-- What some events show, one after the other. -/
def effects (l : Life) : List Event → List Effect
  | [] => []
  | e :: rest => (l.act e).1 :: (l.act e).2.effects rest

/-- The replies to the calls that came back. -/
def replies (l : Life) (events : List Event) : List Session.Reply :=
  (l.effects events).filterMap Effect.reply?

/-- The deliveries that were made. -/
def sent (l : Life) (events : List Event) : List Sent :=
  (l.effects events).filterMap Effect.sent?

end Life
end EchoWatch
