import EchoWatch.Debouncer
import EchoWatch.Lock
import EchoWatch.Net.Range
import EchoWatch.Time.Moment
/-!
# Peers

A peer is an endpoint that is expected to send echo requests from a range of addresses. It keeps
the moment of its last packet, which is written and read under its gate, and the debouncer that
judges it.
-/

namespace EchoWatch

structure Peer where
  name : String
  range : Net.Range
  webhook : Option String
  debouncer : Debouncer
  lastSeen : Option Moment
  gate : Lock
  deriving DecidableEq, Repr

namespace Peer

/-- A peer whose range is no range. -/
structure BadRange where
  peer : String
  network : String
  reason : Net.Range.ParseError
  deriving DecidableEq, Repr

def BadRange.message (e : BadRange) : String :=
  let peer := e.peer
  let network := Text.quoted e.network
  let reason := e.reason.message
  s!"Peer \x27{peer}\x27 has an invalid network {network}: {reason}"

def parseRange (peer network : String) : Except BadRange Net.Range :=
  (Net.Range.parse network).mapError fun reason => ⟨peer, network, reason⟩

/-- A peer that has not been seen yet. An empty webhook is none. -/
def new (name network : String) (limits : Thresholds) (webhook : Option String) :
    Except BadRange Peer :=
  (parseRange name network).map fun range =>
    { name, range
      webhook := webhook.filter (· ≠ "")
      debouncer := .start limits
      lastSeen := none
      gate := .free }

def contains (p : Peer) (a : Net.Address) : Bool :=
  p.range.contains a

/-- Notes a packet that arrived at the given moment. -/
def markSeen (p : Peer) (now : Moment) : Peer :=
  let inside := { p with gate := p.gate.enter .writer }
  let marked := { inside with lastSeen := some now }
  { marked with gate := marked.gate.leave .writer }

/-- Why a check of a peer comes to nothing. -/
inductive CheckError where
  /-- A moment with a zone and one without cannot be compared. -/
  | clockMismatch
  /-- The state of the peer, or the one that it would go to, has no name. -/
  | illegible (e : Numeral.TooLong)
  deriving DecidableEq, Repr

/-- Whether a packet arrived less than `timeout` before now, and the moment this is based on. -/
def observation (p : Peer) (now : Moment) (timeout : Micros) :
    Except CheckError (Bool × Option Moment) :=
  match p.lastSeen with
  | none => .ok (false, none)
  | some last =>
    match now.elapsed? last with
    | some elapsed => .ok (elapsed < timeout, some last)
    | none => .error .clockMismatch

/-- The observation made under the gate, and the peer after it. The gate is left in any case. -/
def seenWithin (p : Peer) (now : Moment) (timeout : Micros) :
    Except CheckError (Bool × Option Moment) × Peer :=
  let inside := { p with gate := p.gate.enter .reader }
  (inside.observation now timeout, { inside with gate := inside.gate.leave .reader })

def observe (p : Peer) (seen : Bool) : Peer :=
  { p with debouncer := p.debouncer.observe seen }

/-- A peer and the name of its state, in a line. -/
def status (p : Peer) : Except Numeral.TooLong String :=
  p.debouncer.name.map fun state =>
    let name := p.name
    let range := p.range.text
    s!"Peer {name} - Network {range} - State {state}"

/-- A peer by name and range, for people who look into the program. -/
def label (p : Peer) : String :=
  let name := Text.quoted p.name
  let range := p.range.text
  s!"Peer(name={name}, network=\x27{range}\x27)"

/-- Looking leaves the peer as it was, its gate included, whether or not it comes to an
observation. -/
@[simp] theorem seenWithin_snd (p : Peer) (now : Moment) (timeout : Micros) :
    (p.seenWithin now timeout).2 = p := by
  simp only [seenWithin, Lock.leave_enter_reader]

end Peer
end EchoWatch
