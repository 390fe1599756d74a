import EchoWatch.Journal.Entry
import EchoWatch.Notice
import EchoWatch.Peer.Roster
/-!
# The board

The board holds the peers and what is known about them. Two things happen to it: a packet stamps
the first peer whose range holds its source, and a check turns a peer's last packet into an
observation. `Peer.check` finds out what is observed and which notice is due: one for a confirmed
change and, on a verbose board, one for every change that can be seen.

A check fails where a moment that has a zone meets one that has none, and where a state has no
name.
-/

namespace EchoWatch

/-- The peers under watch, and how they are judged. -/
structure Board where
  roster : Roster
  /-- How recently a peer must have been seen to count as seen. -/
  timeout : Micros
  /-- Whether every visible change is worth a notice. -/
  verbose : Bool
  deriving DecidableEq, Repr

namespace Peer

/-- What a check finds out about a peer: the notice that is due, and whether it was seen. -/
structure Finding where
  notice : Option Notice
  seen : Bool
  deriving DecidableEq, Repr

/-- Looks at a peer. Its state and the one that it would go to are both named, whether or not a
notice is due. The peer has not yet taken the observation over. -/
def check (p : Peer) (verbose : Bool) (timeout : Micros) (now : Moment) :
    Except CheckError Finding × Peer :=
  match p.seenWithin now timeout with
  | (.error e, p) => (.error e, p)
  | (.ok (seen, lastSeen), p) =>
    match p.debouncer.name, (p.debouncer.observe seen).name with
    | .error e, _ | _, .error e => (.error (.illegible e), p)
    | .ok before, .ok after =>
      let due := p.debouncer.notable seen || (verbose && before ≠ after)
      let notice := if due then some (.ofTransition p.name before after lastSeen now) else none
      (.ok ⟨notice, seen⟩, p)

end Peer

namespace Board

def source : String := "woodwatch.monitor"

/-- The board of a configuration, if its peers can be read. -/
def ofSettings (s : Settings) (verbose : Bool) : Except Roster.BuildError Board :=
  (Roster.ofSettings s).map fun roster => { roster, timeout := s.timeout, verbose }

/-- What the journal says about each peer in the beginning, as far as it can be written. -/
def opening (b : Board) : List Entry :=
  b.roster.peers.filterMap fun p => p.status.toOption.map (.info source ·)

/-! ### Packets -/

/-- What the journal says about a packet. -/
def packetEntries (b : Board) (address : String) (route : Roster.Route) : List Entry :=
  let shown := Text.quoted address
  let unread : List Entry := match route with
    | .unreadable => [.debug "woodwatch.peer" s!"Ignoring unparsable address {shown}"]
    | _ => []
  let routed : List Entry :=
    if b.verbose then
      match route with
      | .peer i =>
        let name := ((b.roster.peers[i]?).map Peer.name).getD ""
        [.info source s!"{address} updated last seen for {name}"]
      | _ => [.info source s!"No configured peer matched {shown}"]
    else []
  unread ++ routed

def packet (b : Board) (now : Moment) (address : String) : Board :=
  match b.roster.route address with
  | .peer i => { b with roster := b.roster.modify i fun p => p.markSeen now }
  | _ => b

/-- A board with another peer at a place. -/
def setPeer (b : Board) (i : Nat) (p : Peer) : Board :=
  { b with roster := ⟨b.roster.peers.set i p⟩ }

end Board
end EchoWatch
