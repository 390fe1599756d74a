import EchoWatch.Text.Marks
/-!
# Directions of writing

Some scripts run to the right and some to the left, and a label of a host name must not be torn
apart when it is shown: `isSteady` tells whether its characters keep together. The runs are for
characters that host names may hold.
-/

namespace EchoWatch.Net.Host

/-- What a character does to the direction of a text. -/
inductive Direction where
  | rightward
  | leftward
  | number
  | arabicNumber
  | neutral
  | mark
  deriving DecidableEq, Repr

/-- First and last code point of each run of characters beyond ASCII that are no marks and do not
run to the right, and what they do. -/
def directionRuns : Array (Nat × Nat × Direction) :=
  #[
    (0xB7, 0xB7, .neutral), (0x2B9, 0x2BA, .neutral), (0x2C6, 0x2CF, .neutral),
    (0x2EC, 0x2EC, .neutral), (0x375, 0x375, .neutral), (0x5D0, 0x64A, .leftward),
    (0x660, 0x669, .arabicNumber), (0x66E, 0x6EF, .leftward), (0x6F0, 0x6F9, .number),
    (0x6FA, 0x8C9, .leftward), (0x200C, 0x200D, .neutral), (0x2E2F, 0x2E2F, .neutral),
    (0x30FB, 0x30FB, .neutral), (0xA67F, 0xA67F, .neutral), (0xA717, 0xA71F, .neutral),
    (0xA788, 0xA788, .neutral), (0xFE73, 0xFE73, .leftward), (0x10800, 0x10D23, .leftward),
    (0x10D30, 0x10D39, .arabicNumber), (0x10E80, 0x10FF6, .leftward), (0x1E800, 0x1E959, .leftward)]

def direction (c : Char) : Direction :=
  if c.toNat < 128 then
    if c.isDigit then .number else if c.isAlpha then .rightward else .neutral
  else if Text.isNonspacing c then .mark
  else
    ((directionRuns.find? fun run => run.1 ≤ c.toNat && c.toNat ≤ run.2.1).map (·.2.2)).getD
      .rightward

/-- Whether a direction is that of a letter that runs to the left, or of a number. -/
def Direction.endsLeftward : Direction → Bool
  | .leftward | .number | .arabicNumber => true
  | .rightward | .neutral | .mark => false

/-- Whether a label keeps together: if anything in it runs to the left, it starts with a letter
that does so, nothing in it runs to the right, its numbers are of one kind, and but for marks it
ends with a letter or a number. -/
def isSteady (label : List Char) : Bool :=
  let ds := label.map direction
  if !(ds.contains .leftward || ds.contains .arabicNumber) then true
  else
    ds.head? = some .leftward
      && !ds.contains .rightward
      && !(ds.contains .number && ds.contains .arabicNumber)
      && ((ds.reverse.dropWhile (· = .mark)).head?).any Direction.endsLeftward

end EchoWatch.Net.Host
