import EchoWatch.Time.Moment
import EchoWatch.Value
/-!
# Notices

A notice tells that a peer went from one state to another: a title, a text for people, the moment
of the check and the moment of the last packet. `Notice.payload` is the body that webhooks get.
-/

namespace EchoWatch

/-- A change of a peer's state, as it stood at the moment of a check. -/
structure Notice where
  title : String
  text : String
  timestamp : Moment
  lastSeen : Option Moment
  newState : String
  prevState : String
  deriving DecidableEq, Inhabited, Repr

namespace Notice

/-- When a peer was last seen, for people. -/
def lastSeenText : Option Moment → String
  | some m => m.pretty
  | none => "never"

/-- The notice of a peer's move between two states. -/
def ofTransition (peer prevState newState : String) (lastSeen : Option Moment)
    (timestamp : Moment) : Notice :=
  let seen := lastSeenText lastSeen
  { title := s!"Peer {peer} is {newState}"
    text := s!"{peer} (last seen {seen}) was previously {prevState} and is now {newState}"
    timestamp, lastSeen, newState, prevState }

inductive Flaw where
  | title | newState | prevState
  deriving DecidableEq, Repr

def Flaw.message : Flaw → String
  | .title => "Event title must not be empty"
  | .newState => "Event new_state must not be empty"
  | .prevState => "Event prev_state must not be empty"

def flaw? (n : Notice) : Option Flaw :=
  if n.title = "" then some .title
  else if n.newState = "" then some .newState
  else if n.prevState = "" then some .prevState
  else none

/-- A notice of a move out of a state that has a name can only lack a name for the new one. -/
theorem flaw?_ofTransition (peer : String) {prevState : String} (newState : String)
    (lastSeen : Option Moment) (timestamp : Moment) (h : prevState ≠ "") :
    (ofTransition peer prevState newState lastSeen timestamp).flaw? =
      if newState = "" then some .newState else none := by
  have htitle : (ofTransition peer prevState newState lastSeen timestamp).title ≠ "" := by
    intro h
    have hchars := congrArg String.toList h
    simp [ofTransition, String.toList_append, toString] at hchars
  rw [flaw?, if_neg htitle]
  show (if newState = "" then some Flaw.newState
    else if prevState = "" then some .prevState else none) = _
  rw [if_neg h]

def momentValue : Option Moment → Value
  | some m => .text m.iso
  | none => .null

/-- The body posted to webhooks. -/
def payload (n : Notice) : Value :=
  .map [
    (.text "title", .text n.title),
    (.text "text", .text n.text),
    (.text "timestamp", .text n.timestamp.iso),
    (.text "lastSeen", momentValue n.lastSeen),
    (.text "newState", .text n.newState),
    (.text "prevState", .text n.prevState)]

end Notice
end EchoWatch
