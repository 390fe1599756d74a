import EchoWatch.Capture.Packet
import EchoWatch.Journal.Entry
import EchoWatch.Text.Quoted
/-!
# The listener

A listener owns a capture socket and gives the sources of the echo requests that arrive on it. It
looks at the socket for a short time at once, again and again, so that it notices when it has been
closed. Whoever waits for a packet holds the listener; who closes it meanwhile only leaves a mark,
and the waiting call closes the socket on its way out.
-/

namespace EchoWatch

structure Listener where
  address : String
  /-- The end was asked for. -/
  closed : Bool
  /-- A call has the listener for itself: it waits for a packet, or closes the socket. -/
  held : Bool
  socketClosed : Bool
  /-- The times that the socket was closed. -/
  socketCloses : Nat
  deriving DecidableEq, Repr

/-- What one look at the socket yields. -/
inductive Sniff where
  | packets (ps : List Packet)
  | failure (message : String)
  /-- The listener is closed meanwhile, and nothing arrives. -/
  | closing
  deriving DecidableEq, Repr

namespace Listener

def source : String := "woodwatch.listener"

def opened (address : String) : Listener :=
  ⟨address, false, false, false, 0⟩

/-- The interface shown when none was chosen. -/
def shownInterface (default : String) : Option String → String
  | none | some "" => default
  | some name => name

def openingEntry (address : String) (iface : Option String) (default : String) : Entry :=
  let name := shownInterface default iface
  let filter := Text.quoted (Packet.captureFilter address)
  .debug source s!"Capturing on {name} with filter {filter}"

/-- Closes the socket, unless that was done before. -/
def closeSocket (l : Listener) : Listener × List Entry :=
  if l.socketClosed then (l, [])
  else
    let address := l.address
    ({ l with socketClosed := true, socketCloses := l.socketCloses + 1 },
      [.debug source s!"Closed ICMP capture for {address}"])

/-- Closes a listener. The socket is left to the call that holds the listener, if there is one. -/
def close (l : Listener) : Listener × List Entry :=
  let l := { l with closed := true }
  if l.held then (l, [])
  else
    let (l, entries) := { l with held := true }.closeSocket
    ({ l with held := false }, entries)

inductive Failure where
  | closed
  | system (message : String)
  deriving DecidableEq, Repr

def Failure.message : Failure → String
  | .closed => "listener is closed"
  | .system message => message

/-- The end of a wait for a packet: the source or a failure, what was not looked at, and how many
looks it took. -/
structure Reception where
  result : Except Failure String
  left : List Sniff
  looks : Nat

/-- The looks at the socket of a call that holds the listener. Before each of them the mark of the
end is tested. Whoever has nothing more to offer closes the listener. -/
def look (l : Listener) (script : List Sniff) : Reception × Listener × List Entry :=
  if l.closed then (⟨.error .closed, script, 0⟩, l, [])
  else
    match script with
    | [] =>
      let (l, entries) := l.close
      (⟨.error .closed, [], 1⟩, l, entries)
    | .packets ps :: rest =>
      match ps.find? Packet.isEchoRequest with
      | some p => (⟨.ok (p.source?.getD ""), rest, 1⟩, l, [])
      | none =>
        let (r, l, entries) := l.look rest
        ({ r with looks := r.looks + 1 }, l, entries)
    | .failure message :: rest => (⟨.error (.system message), rest, 1⟩, l, [])
    | .closing :: rest =>
      let (l, entries) := l.close
      let (r, l, more) := l.look rest
      ({ r with looks := r.looks + 1 }, l, entries ++ more)

/-- Waits for an echo request. However the wait ends, the socket of a closed listener is closed
before the listener is let go. -/
def receive (l : Listener) (script : List Sniff) : Reception × Listener × List Entry :=
  let (r, l, entries) := { l with held := true }.look script
  let (l, more) := if l.closed then l.closeSocket else (l, [])
  (r, { l with held := false }, entries ++ more)

/-- The sources that a listener gives one after the other, and the failure that ends them; there is
none when all looks are used up. -/
def sources : List Sniff → List String × Option Failure
  | [] => ([], none)
  | .packets ps :: rest =>
    let (later, failure) := sources rest
    match ps.find? Packet.isEchoRequest with
    | some p => (p.source?.getD "" :: later, failure)
    | none => (later, failure)
  | .failure message :: _ => ([], some (.system message))
  | .closing :: _ => ([], some .closed)

end Listener
end EchoWatch
