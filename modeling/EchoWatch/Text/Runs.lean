/-!
# Runs of characters

A class of characters is given by the first and the last code point of each of its runs.
-/

namespace EchoWatch.Text

/-- Whether a character is in one of the given runs. -/
def inRuns (runs : Array (Nat × Nat)) (c : Char) : Bool :=
  runs.any fun run => run.1 ≤ c.toNat && c.toNat ≤ run.2

end EchoWatch.Text
