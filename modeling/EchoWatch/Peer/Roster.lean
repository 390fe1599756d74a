import EchoWatch.Peer.Basic
import EchoWatch.Settings.Basic
/-!
# The roster

The peers of a configuration, in their order. A packet belongs to the first peer whose range holds
its address, so that overlapping ranges are settled by the order of declaration. A roster is built
from a whole configuration or not at all.
-/

namespace EchoWatch

structure Roster where
  peers : List Peer
  deriving DecidableEq, Repr

namespace Roster

inductive BuildError where
  | noPeers
  | badRange (e : Peer.BadRange)
  deriving DecidableEq, Repr

def BuildError.message : BuildError → String
  | .noPeers => "One or more peers must be configured"
  | .badRange e => e.message

def ofPeers (peers : List Peer) : Except BuildError Roster :=
  if peers.isEmpty then .error .noPeers else .ok ⟨peers⟩

/-- A peer's own threshold unless it is zero, else the common one. -/
def threshold (own common : Int) : Int :=
  if own = 0 then common else own

/-- A peer's own webhook unless it is empty, else the common one unless that is empty. -/
def webhook (own common : String) : Option String :=
  if own ≠ "" then some own else if common ≠ "" then some common else none

def peerOf (s : Settings) (p : PeerSettings) : Except Peer.BadRange Peer :=
  Peer.new p.name p.network
    ⟨threshold p.upThreshold s.upThreshold, threshold p.downThreshold s.downThreshold⟩
    (webhook p.webhook s.webhook)

/-- The peers of entries, up to the first one with a bad range. -/
def peersOf (s : Settings) : List PeerSettings → Except Peer.BadRange (List Peer)
  | [] => .ok []
  | p :: ps =>
    match peerOf s p with
    | .error e => .error e
    | .ok peer => (peersOf s ps).map (peer :: ·)

def ofSettings (s : Settings) : Except BuildError Roster :=
  if s.peers.isEmpty then .error .noPeers
  else
    match peersOf s s.peers with
    | .error e => .error (.badRange e)
    | .ok peers => ofPeers peers

/-! ### Routing -/

inductive Route where
  | unreadable
  | unmatched
  | peer (index : Nat)
  deriving DecidableEq, Repr

/-- The position of the first peer whose range holds an address. -/
def indexOf? (r : Roster) (a : Net.Address) : Option Nat :=
  r.peers.findIdx? fun p => p.contains a

def route (r : Roster) (address : String) : Route :=
  match Net.Address.read? address.toList with
  | none => .unreadable
  | some a =>
    match r.indexOf? a with
    | none => .unmatched
    | some i => .peer i

/-- The position of the first peer with a name. -/
def find? (r : Roster) (name : String) : Option Nat :=
  r.peers.findIdx? fun p => p.name = name

/-- The peer at a position; negative positions count from the end. -/
def at? (r : Roster) (index : Int) : Option Peer :=
  let i := if index < 0 then index + r.peers.length else index
  if 0 ≤ i then r.peers[i.toNat]? else none

def modify (r : Roster) (index : Nat) (f : Peer → Peer) : Roster :=
  ⟨r.peers.modify index f⟩

end Roster
end EchoWatch
