import EchoWatch.Number.Numeral
import EchoWatch.Text.Quoted
/-!
# Debouncing

A debouncer turns a sequence of observations, seen or missed, into a steady verdict. `up` and
`down` are the verdicts; `maybeUp` and `maybeDown` count the observations in a row that speak for
the other verdict. Reaching the threshold confirms the other verdict, and only that step is
notable: entering a count, counting on and falling back are silent.

A state has a name, which shows its count and the threshold. `name` fails where one of these two
numbers is too long to be written.

The first contradicting observation already opens a count of one and the next one is compared with
the threshold, so that thresholds of zero and one act like two.
-/

namespace EchoWatch

/-- Observations in a row that confirm a peer up or down. -/
structure Thresholds where
  up : Int
  down : Int
  deriving DecidableEq, Inhabited, Repr

/-- A verdict, or the count of observations against one. -/
inductive Phase where
  | up
  | down
  | maybeUp (count : Int)
  | maybeDown (count : Int)
  deriving DecidableEq, Inhabited, Repr

/-- A phase together with the thresholds it is judged by. -/
structure Debouncer where
  phase : Phase
  limits : Thresholds
  deriving DecidableEq, Inhabited, Repr

namespace Phase

/-- The next phase after an observation, and whether the step confirmed a verdict. -/
def observe (limits : Thresholds) : Phase → (seen : Bool) → Phase × Bool
  | up, true => (up, false)
  | up, false => (maybeDown 1, false)
  | down, false => (down, false)
  | down, true => (maybeUp 1, false)
  | maybeUp _, false => (down, false)
  | maybeUp n, true => if limits.up ≤ n + 1 then (up, true) else (maybeUp (n + 1), false)
  | maybeDown _, true => (up, false)
  | maybeDown n, false => if limits.down ≤ n + 1 then (down, true) else (maybeDown (n + 1), false)

end Phase

namespace Debouncer

/-- Every peer starts down. -/
def start (limits : Thresholds) : Debouncer :=
  ⟨.down, limits⟩

def observe (d : Debouncer) (seen : Bool) : Debouncer :=
  { d with phase := (d.phase.observe d.limits seen).1 }

/-- Whether an observation would confirm a verdict. -/
def notable (d : Debouncer) (seen : Bool) : Bool :=
  (d.phase.observe d.limits seen).2

def observeAll (d : Debouncer) (seen : List Bool) : Debouncer :=
  seen.foldl observe d

/-- The observations counted so far and the threshold they are counted towards. -/
def progress (d : Debouncer) : Option (Int × Int) :=
  match d.phase with
  | .maybeUp n => some (n, d.limits.up)
  | .maybeDown n => some (n, d.limits.down)
  | _ => none

/-- A count on its way to a threshold: `(1 of 3)`. -/
def tally (count threshold : Int) : String :=
  let count := String.ofList (Numeral.ofInt count)
  let threshold := String.ofList (Numeral.ofInt threshold)
  s!"({count} of {threshold})"

/-- The words for a debouncer's state. -/
def wording (d : Debouncer) : String :=
  match d.phase with
  | .up => "Up"
  | .down => "Down"
  | .maybeUp n => "Maybe Up " ++ tally n d.limits.up
  | .maybeDown n => "Maybe Down " ++ tally n d.limits.down

/-- Whether the numbers in the words for a state, if there are any, can be written. -/
def legible (d : Debouncer) : Bool :=
  d.progress.all fun (count, threshold) => Numeral.isShort count && Numeral.isShort threshold

/-- The name of a debouncer's state, as events and status lines show it. A threshold may be any
number, also one that is too long to be written. -/
def name (d : Debouncer) : Except Numeral.TooLong String :=
  if d.legible then .ok d.wording else .error .tooLong

@[simp] theorem observe_limits (d : Debouncer) (seen : Bool) :
    (d.observe seen).limits = d.limits := rfl

theorem observeAll_snoc (d : Debouncer) (seen : List Bool) (b : Bool) :
    d.observeAll (seen ++ [b]) = (d.observeAll seen).observe b := by
  simp [observeAll]

end Debouncer

/-- How a state that is no debouncer's is refused. -/
def Debouncer.unknownState (text : String) : String :=
  "Unknown peer state: " ++ Text.quoted text

end EchoWatch
