import EchoWatch.Schedule
import EchoWatch.Watch.Monitor
/-!
# Sessions

A session is a monitor together with its two clocks: the one that stamps packets and checks, and
the steady one that times the checks. `Session.call` runs one call; `Session.listen` runs a whole
stretch of listening, in which packets arrive and other calls are made until the source ends;
`Session.loop` runs the loop of checks along a schedule of waits.
-/

namespace EchoWatch

/-- A monitor and its clocks. -/
structure Session where
  monitor : Monitor
  now : Moment
  steady : Binary64

namespace Session

inductive CallError where
  | check (e : Monitor.CheckError)
  | noSuchPeer
  | alreadyListening
  | notListening
  | outOfCalendar
  | outside (e : Monitor.Trouble)
  deriving DecidableEq, Repr

/-- One round of the loop of checks: by how much the wait is late, what the check costs, which
packets arrive meanwhile, and how far the clock moves. -/
structure Round where
  late : Binary64
  cost : Binary64
  packets : List String
  clock : Micros
  deriving Repr

inductive Call where
  | advance (us : Micros)
  | setClock (now : Moment)
  | packet (address : String)
  | checkAt (index : Int)
  | checkAll
  | close
  | stop
  | status
  | loop (rounds : List Round)
  | listenAgain
  deriving Repr

/-- What a monitor shows of itself. -/
structure Status where
  listening : Bool
  stopping : Bool
  address : String
  verbose : Bool
  cycle : Binary64
  timeout : Micros
  peers : List String
  deriving Repr

inductive Reply where
  | nothing
  | peer (name : Option String)
  | notice (n : Option Notice)
  | status (s : Status)
  | loop (waits checkedAt : List Binary64)
  | error (e : CallError)
  deriving Repr

def status (s : Session) : Status :=
  let m := s.monitor
  { listening := m.listening, stopping := m.stopping, address := m.address
    verbose := m.board.verbose, cycle := m.cycle, timeout := m.board.timeout
    peers := m.board.roster.peers.map Peer.label }

def packet (s : Session) (address : String) : Option Nat × Session × List Entry :=
  let (i, m, entries) := s.monitor.packet s.now address
  (i, { s with monitor := m }, entries)

def packets (s : Session) : List String → Session × List Entry
  | [] => (s, [])
  | a :: rest =>
    let (_, s, entries) := s.packet a
    let (s, more) := s.packets rest
    (s, entries ++ more)

/-- The reply to a check. -/
def checkReply {α : Type} (onDone : α → Reply) : Except Monitor.CheckError α → Reply
  | .ok done => onDone done
  | .error e => .error (.check e)

/-- Moves the clock. -/
def advance (s : Session) (us : Micros) : Option Session :=
  (s.now.shift? us).map fun now => { s with now := now }

/-! ### The loop of checks -/

/-- The time left until a deadline, at least zero. -/
def timeLeft (deadline steady : Binary64) : Binary64 :=
  let left := deadline - steady
  if Binary64.ofInt 0 < left then left else .ofInt 0

/-- Runs the loop from a deadline on. A failing check ends it. -/
def rounds (s : Session) (deadline : Binary64) (waits checkedAt : List Binary64) :
    List Round → Reply × Session × List Entry
  | [] =>
    (.loop (waits ++ [timeLeft deadline s.steady]) checkedAt, s, [Monitor.stoppingEntry])
  | r :: rest =>
    let wait := timeLeft deadline s.steady
    let s := { s with steady := s.steady + (wait + r.late) }
    let (s, arrived) := s.packets r.packets
    match s.advance r.clock with
    | none => (.error .outOfCalendar, s, arrived)
    | some s =>
      let started := s.steady
      let (result, m, checked) := s.monitor.checkAll s.now
      let s := { s with monitor := m }
      match result with
      | .error e => (.error (.check e), s, arrived ++ checked)
      | .ok _ =>
        let s := { s with steady := s.steady + r.cost }
        let next := Schedule.nextTick deadline s.monitor.cycle s.steady
        let (reply, s, later) := s.rounds next (waits ++ [wait]) (checkedAt ++ [started]) rest
        (reply, s, arrived ++ checked ++ later)

/-- Runs the loop of checks, whose first deadline is one cycle from now. -/
def loop (s : Session) (rs : List Round) : Reply × Session × List Entry :=
  s.rounds (s.steady + s.monitor.cycle) [] [] rs

/-! ### Calls -/

/-- The position of a peer; negative positions count from the end. -/
def position? (s : Session) (index : Int) : Option Nat :=
  let size := s.monitor.board.roster.peers.length
  let i := if index < 0 then index + size else index
  if 0 ≤ i ∧ i < size then some i.toNat else none

def call (s : Session) : Call → Reply × Session × List Entry
  | .advance us =>
    match s.advance us with
    | some s => (.nothing, s, [])
    | none => (.error .outOfCalendar, s, [])
  | .setClock now => (.nothing, { s with now := now }, [])
  | .packet address =>
    let (i, s', entries) := s.packet address
    (.peer ((i.bind fun i => s.monitor.board.roster.peers[i]?).map Peer.name), s', entries)
  | .checkAt index =>
    match (s.position? index).bind (s.monitor.checkAt s.now) with
    | none => (.error .noSuchPeer, s, [])
    | some (result, m, entries) =>
      (checkReply .notice result,
        { s with monitor := m }, entries)
  | .checkAll =>
    let (result, m, entries) := s.monitor.checkAll s.now
    (checkReply (fun _ => .nothing) result, { s with monitor := m }, entries)
  | .close =>
    match s.monitor.close with
    | none => (.error .notListening, s, [])
    | some (m, entries) => (.nothing, { s with monitor := m }, entries)
  | .stop =>
    let (m, entries) := s.monitor.stop
    (.nothing, { s with monitor := m }, entries)
  | .status => (.status s.status, s, [])
  | .loop rs => s.loop rs
  | .listenAgain =>
    -- a further call gets no further than its beginning
    match s.monitor.start none with
    | (.alreadyListening, m, entries) =>
      (.error .alreadyListening, { s with monitor := m }, entries)
    | (_, m, entries) => (.nothing, { s with monitor := m }, entries)

/-! ### Listening -/

/-- What happens while the monitor listens. -/
inductive Arrival where
  | address (a : String)
  /-- The source fails with a system's error, or with another one. -/
  | failure (systemError : Bool) (e : Monitor.Trouble)
  | call (c : Call)
  deriving Repr

/-- The end of a stretch of listening: the error that came out, and the replies to the calls made
meanwhile. -/
structure Listening where
  error : Option CallError
  inner : List Reply

/-- The error of a source that was closed from this side. -/
def sourceClosed : Monitor.Trouble :=
  ⟨"OSError", "source closed"⟩

/-- The source fails: what comes out. -/
def failed (s : Session) (systemError : Bool) (e : Monitor.Trouble) : Option CallError :=
  if s.monitor.sourceFailed systemError then some (.outside e) else none

/-- Takes what arrives until the source fails. A source with nothing more to give stops the
monitor, unless that was done before, and then fails. -/
def ingest (s : Session) : List Arrival → Listening × Session × List Entry
  | [] =>
    if s.monitor.stopping then (⟨s.failed true sourceClosed, []⟩, s, [])
    else
      let (m, entries) := s.monitor.stop
      let s := { s with monitor := m }
      (⟨s.failed true sourceClosed, []⟩, s, entries)
  | .address a :: rest =>
    let (_, s, entries) := s.packet a
    let (l, s, more) := s.ingest rest
    (l, s, entries ++ more)
  | .failure systemError e :: _ => (⟨s.failed systemError e, []⟩, s, [])
  | .call c :: rest =>
    let (reply, s, entries) := s.call c
    let (l, s, more) := s.ingest rest
    ({ l with inner := reply :: l.inner }, s, entries ++ more)

/-- Listens: begins, takes what arrives, and makes the end. -/
def listen (s : Session) (arrivals : List Arrival) (refusal : Option Monitor.Trouble) :
    Listening × Session × List Entry :=
  match s.monitor.start refusal with
  | (.alreadyListening, m, entries) =>
    (⟨some .alreadyListening, []⟩, { s with monitor := m }, entries)
  | (.stoppedBefore, m, entries) => (⟨none, []⟩, { s with monitor := m }, entries)
  | (.refused e, m, entries) => (⟨some (.outside e), []⟩, { s with monitor := m }, entries)
  | (.opened, m, entries) =>
    let (l, s, during) := { s with monitor := m }.ingest arrivals
    let (m, after) := s.monitor.teardown
    (l, { s with monitor := m }, entries ++ during ++ after)

/-- The worker of the outbox catches up. -/
def drain (s : Session) : List Sent × Session × List Entry :=
  let (sent, entries, outbox) := s.monitor.outbox.drain
  (sent, { s with monitor := { s.monitor with outbox := outbox } }, entries)

end Session
end EchoWatch
