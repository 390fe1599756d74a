/-!
# The schedule of checks

Each deadline is one cycle after the one before it, however long the check in between takes. Only a
check that ends at or after the next deadline makes the following check due at once, the deadlines
it missed are dropped, and the cycles are counted from its end.

The rule needs an addition and a strict order and nothing else, so that it speaks of doubles, of
integers and of rational numbers alike.
-/

namespace EchoWatch.Schedule

variable {α : Type} [Add α] [LT α] [DecidableLT α]

/-- When the check after the one due at `deadline` is due. -/
def nextTick (deadline cycle now : α) : α :=
  if now < deadline + cycle then deadline + cycle else now

/-- The deadlines of a run: the first one and then, for every check, the one after it. -/
def deadlines (cycle : α) : (deadline : α) → (ends : List α) → List α
  | deadline, [] => [deadline]
  | deadline, now :: ends => deadline :: deadlines cycle (nextTick deadline cycle now) ends

end EchoWatch.Schedule
