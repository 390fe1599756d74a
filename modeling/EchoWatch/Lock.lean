/-!
# The readers-writer lock

Any number of readers, or a single writer, may be inside at once. A writer that waits keeps new
readers out, so that a steady stream of readers cannot starve it.

`Lock` holds the three numbers by which arrivals are judged. `Lock.Hall` puts actors around it and
follows them step by step: an actor asks, sleeps while the lock is closed to it, is roused when the
last reader or the writer leaves, and then tests the lock again. A step is one critical section, so
that every order of steps is possible. Actors keep the places of their arrival, also when they have
left, so that a place stands for one actor throughout.
-/

namespace EchoWatch

/-- What an actor wants the lock for. -/
inductive Role where
  | reader | writer
  deriving DecidableEq, Inhabited, Repr

/-- The state of a lock: readers inside, whether a writer is inside, writers that wait. -/
structure Lock where
  readers : Nat
  writing : Bool
  writersWaiting : Nat
  deriving DecidableEq, Inhabited, Repr

namespace Lock

/-- A lock that nobody uses. -/
def free : Lock :=
  ⟨0, false, 0⟩

/-- Whether an actor of the given role may enter now. -/
def admits (l : Lock) : Role → Bool
  | .reader => !l.writing && l.writersWaiting = 0
  | .writer => !l.writing && l.readers = 0

def enter (l : Lock) : Role → Lock
  | .reader => { l with readers := l.readers + 1 }
  | .writer => { l with writing := true }

def leave (l : Lock) : Role → Lock
  | .reader => { l with readers := l.readers - 1 }
  | .writer => { l with writing := false }

/-- The lock with one more writer that waits. -/
def queue (l : Lock) : Role → Lock
  | .reader => l
  | .writer => { l with writersWaiting := l.writersWaiting + 1 }

/-- The lock with one writer fewer that waits. -/
def unqueue (l : Lock) : Role → Lock
  | .reader => l
  | .writer => { l with writersWaiting := l.writersWaiting - 1 }

/-- Whether the departure of an actor rouses the sleepers: writers always do, readers when the
last one leaves. -/
def rouses (l : Lock) : Role → Bool
  | .reader => l.readers = 0
  | .writer => true

/-- A reader that comes and goes leaves the lock as it was. -/
theorem leave_enter_reader (l : Lock) : (l.enter .reader).leave .reader = l := by
  cases l; simp [enter, leave]

/-! ### Actors around a lock -/

/-- How far an actor has come with the lock. -/
inductive Stance where
  | asleep
  /-- Woken up, about to test the lock again. -/
  | roused
  | inside
  | gone
  deriving DecidableEq, Repr

namespace Stance

/-- Whether an actor has asked for the lock and was not let in yet. -/
def waits : Stance → Bool
  | asleep | roused => true
  | inside | gone => false

def rouse : Stance → Stance
  | asleep => roused
  | stance => stance

end Stance

structure Actor where
  name : String
  role : Role
  stance : Stance
  deriving DecidableEq, Repr

def Actor.rouse (a : Actor) : Actor :=
  { a with stance := a.stance.rouse }

/-- A lock and the actors that came to use it, in the order of their arrival. -/
structure Hall where
  lock : Lock
  actors : List Actor
  deriving DecidableEq, Repr

namespace Hall

def empty : Hall :=
  ⟨free, []⟩

/-- The actor at a place, if it has the given stance. -/
def standing? (h : Hall) (stance : Stance) (i : Nat) : Option Actor :=
  (h.actors[i]?).filter fun a => a.stance = stance

/-- The roused actor at a place tests the lock: it enters if the lock admits it and sleeps
otherwise. -/
def test (h : Hall) (i : Nat) : Hall :=
  match h.standing? .roused i with
  | none => h
  | some a =>
    if h.lock.admits a.role then
      ⟨(h.lock.unqueue a.role).enter a.role, h.actors.set i { a with stance := .inside }⟩
    else { h with actors := h.actors.set i { a with stance := .asleep } }

/-- A new actor comes up to the lock. -/
def arrive (h : Hall) (name : String) (role : Role) : Hall :=
  ⟨h.lock.queue role, h.actors ++ [⟨name, role, .roused⟩]⟩

/-- A new actor asks for the lock: it comes, and tests the lock at once. -/
def ask (h : Hall) (name : String) (role : Role) : Hall :=
  (h.arrive name role).test h.actors.length

/-- The actor at a place leaves, if it is inside. -/
def leaveAt (h : Hall) (i : Nat) : Hall :=
  match h.standing? .inside i with
  | none => h
  | some a =>
    let lock := h.lock.leave a.role
    let actors := h.actors.set i { a with stance := .gone }
    ⟨lock, if lock.rouses a.role then actors.map Actor.rouse else actors⟩

/-- The actor with a given name leaves, if it is inside. -/
def leave (h : Hall) (name : String) : Option Hall :=
  (h.actors.findIdx? fun a => a.name = name ∧ a.stance = .inside).map h.leaveAt

/-- Every roused actor tests the lock once, in the order of arrival. -/
def settle (h : Hall) : Hall :=
  (List.range h.actors.length).foldl test h

def holding (h : Hall) : List String :=
  (h.actors.filter fun a => a.stance = .inside).map Actor.name

/-- The names of the actors that are not inside yet. -/
def waiting (h : Hall) : List String :=
  (h.actors.filter fun a => a.stance.waits).map Actor.name

/-! ### Runs -/

/-- How the block ends that an actor runs inside. -/
inductive Ending where
  | finished
  | failed
  deriving DecidableEq, Repr

inductive Step where
  | ask (name : String) (role : Role)
  | retest (place : Nat)
  | leave (place : Nat) (ending : Ending)
  deriving DecidableEq, Repr

/-- The hall after a step; a step that its actor cannot take changes nothing. The lock is let go
whether a block finished or failed. -/
def step (h : Hall) : Step → Hall
  | .ask name role => h.ask name role
  | .retest place => h.test place
  | .leave place _ => h.leaveAt place

/-- The hall after some steps. -/
def run (h : Hall) (steps : List Step) : Hall :=
  steps.foldl step h

end Hall
end Lock
end EchoWatch
