import EchoWatch.Delivery.Catalog
import EchoWatch.Delivery.Outbox
import EchoWatch.Watch.Board
/-!
# The monitor

A monitor ties a board to a source of packets and to an outbox. It is built once, listens at most
once and is stopped at most once: `start`, `close` and `stop` are its atomic calls, and `teardown`
is what every end comes to. Closing is an error before the source is open; stopping never is.
-/

namespace EchoWatch

structure Monitor where
  address : String
  /-- The time between checks, in seconds. -/
  cycle : Binary64
  board : Board
  outbox : Outbox
  /-- Listening has been asked for. -/
  listenCalled : Bool
  /-- An end has been asked for. -/
  stopping : Bool
  /-- The end has been made. -/
  tornDown : Bool
  /-- The source, once it is open: how often it was closed. -/
  source : Option Nat

namespace Monitor

inductive BuildError where
  | emptyAddress
  | roster (e : Roster.BuildError)
  | unknownNotifier (type : String)
  deriving DecidableEq, Repr

def BuildError.message : BuildError → String
  | .emptyAddress => "Listen address must not be empty"
  | .roster e => e.message
  | .unknownNotifier type => Channel.unknownType type

/-- The carrier that a configuration asks for. -/
def carrierOf (s : Settings) (agent : String) (t : Transport) : Except BuildError Carrier :=
  match Catalog.builtIn.get? s.notifier.type with
  | some kind =>
    .ok (.channel ⟨kind, s.notifier.options.map fun (k, v) => (.text k, v)⟩ agent t)
  | none => .error (.unknownNotifier s.notifier.type)

def around (s : Settings) (address : String) (board : Board) (carrier : Carrier) : Monitor :=
  { address, cycle := s.cycleSeconds, board, outbox := .new carrier
    listenCalled := false, stopping := false, tornDown := false, source := none }

/-- Builds a monitor: the address is looked at first, then the peers, then the carrier. -/
def build (s : Settings) (address : String) (verbose : Bool)
    (carrier : Except BuildError Carrier) : Except BuildError Monitor :=
  if address = "" then .error .emptyAddress
  else
    match Board.ofSettings s verbose with
    | .error e => .error (.roster e)
    | .ok board => carrier.map (around s address board)

/-- Whether the source has been opened. -/
def listening (m : Monitor) : Bool :=
  m.source.isSome

/-! ### Packets and checks -/

/-- Notes a packet: the position of its peer, if it has one. -/
def packet (m : Monitor) (now : Moment) (address : String) : Option Nat × Monitor × List Entry :=
  let route := m.board.roster.route address
  (match route with
    | .peer i => some i
    | _ => none,
    { m with board := m.board.packet now address }, m.board.packetEntries address route)

inductive CheckError where
  | peer (e : Peer.CheckError)
  | refused (e : Outbox.Refusal)
  deriving DecidableEq, Repr

/-- Checks the peer at a place, if there is one. A notice that is due is posted first, and only then
does the peer take over what was observed. -/
def checkAt (m : Monitor) (now : Moment) (i : Nat) :
    Option (Except CheckError (Option Notice) × Monitor × List Entry) :=
  (m.board.roster.peers[i]?).map fun p =>
    match p.check m.board.verbose m.board.timeout now with
    | (.error e, p) => (.error (.peer e), { m with board := m.board.setPeer i p }, [])
    | (.ok ⟨none, seen⟩, p) =>
      (.ok none, { m with board := m.board.setPeer i (p.observe seen) }, [])
    | (.ok ⟨some n, seen⟩, p) =>
      match m.outbox.post p.webhook n with
      | (.error e, entries) =>
        (.error (.refused e), { m with board := m.board.setPeer i p }, entries)
      | (.ok outbox, entries) =>
        (.ok (some n), { m with board := m.board.setPeer i (p.observe seen), outbox := outbox },
          entries)

/-- Checks the peers at some places one after the other, up to the first check that fails. -/
def checkEach (m : Monitor) (now : Moment) :
    List Nat → Except CheckError Unit × Monitor × List Entry
  | [] => (.ok (), m, [])
  | i :: rest =>
    match m.checkAt now i with
    | none => m.checkEach now rest
    | some (.error e, m, entries) => (.error e, m, entries)
    | some (.ok _, m, entries) =>
      let (result, m, more) := m.checkEach now rest
      (result, m, entries ++ more)

/-- Checks every peer once, in the order of the roster. -/
def checkAll (m : Monitor) (now : Moment) : Except CheckError Unit × Monitor × List Entry :=
  m.checkEach now (List.range m.board.roster.peers.length)

/-! ### Beginning and end -/

def stoppingEntry : Entry :=
  .info Board.source "Stopping monitoring"

/-- Makes the end: the source is closed, checking ends, and the outbox accepts no more. What was
accepted is still delivered. A second end changes nothing. -/
def teardown (m : Monitor) : Monitor × List Entry :=
  if m.tornDown then (m, [])
  else
    ({ m with
        tornDown := true
        stopping := true
        source := m.source.map (· + 1)
        outbox := m.outbox.close },
      if m.listening then [stoppingEntry.on .check] else [])

/-- An end without a source: nothing to close but the outbox. -/
def giveUp (m : Monitor) : Monitor :=
  { m with tornDown := true, outbox := m.outbox.close }

/-- An error from outside: its kind and its message. -/
structure Trouble where
  kind : String
  message : String
  deriving DecidableEq, Repr

inductive Start where
  | alreadyListening
  /-- The end was asked for before. -/
  | stoppedBefore
  | refused (e : Trouble)
  | opened
  deriving DecidableEq, Repr

/-- Begins to listen. The source is opened only by the first call, and only if no end has been
asked for; `refusal` is what opening it would fail with. -/
def start (m : Monitor) (refusal : Option Trouble) : Start × Monitor × List Entry :=
  let address := m.address
  if m.listenCalled then (.alreadyListening, m, [])
  else
    let m := { m with listenCalled := true }
    if m.stopping then
      (.stoppedBefore, m.giveUp, [.info Board.source s!"Stopped before listening on {address}"])
    else
      match refusal with
      | some e => (.refused e, m.giveUp, [])
      | none =>
        (.opened, { m with source := some 0 },
          [.info Board.source s!"Listening for ICMP echo requests on {address}"])

/-- Whether a call to begin to listen would try to open the source. -/
def opens (m : Monitor) : Bool :=
  !m.listenCalled && !m.stopping

/-- Closes a monitor whose source is open. -/
def close (m : Monitor) : Option (Monitor × List Entry) :=
  if m.listening then some m.teardown else none

/-- Stops a monitor, whether or not its source is open. -/
def stop (m : Monitor) : Monitor × List Entry :=
  let m := { m with stopping := true }
  if m.listening then m.teardown else (m, [])

/-- What becomes of an error of the source: after the end was asked for, a system's error is the
expected answer. -/
def sourceFailed (m : Monitor) (systemError : Bool) : Bool :=
  !(systemError && m.stopping)

/-- How calls in the wrong state are reported. -/
def alreadyListening : String := "listen() can only be called once"
def notListening : String := "close() must be called after listen()"

end Monitor
end EchoWatch
