import EchoWatch.Net.Host.Composite
import EchoWatch.Net.Host.Direction
import EchoWatch.Net.Host.Letter
import EchoWatch.Net.Host.Punycode
import EchoWatch.Text.Lower
import EchoWatch.Text.Split
/-!
# Labels of host names

A host name consists of labels with points between them. A label in ASCII may hold anything; one
with other characters keeps to rules for what it holds, and goes out in ASCII.
-/

namespace EchoWatch.Net.Host

def isAscii (cs : List Char) : Bool :=
  cs.all fun c => c.toNat < 128

/-- The most characters that a label may have. -/
def maxLabel : Nat := 63

/-- Whether the hyphens of a label stand inside it, and not where the mark of a label in ASCII has
its own. -/
def hyphensFit (label : List Char) : Bool :=
  label.head? ≠ some '-' && label.getLast? ≠ some '-' && (label.drop 2).take 2 ≠ ['-', '-']

/-- Whether every character of a label may stand where it does. -/
def charactersFit (label : List Char) : Bool :=
  label.zipIdx.all fun (c, i) => fits (label.take i) c (label.drop (i + 1))

/-- Whether a label in small letters keeps to the rules. -/
def isLabel (label : List Char) : Bool :=
  isComposed label && hyphensFit label && !label.head?.any Text.isMark && charactersFit label
    && isSteady label

/-- A label as it goes out. -/
def label? (label : List Char) : Option (List Char) :=
  let small := Text.lower label
  if isAscii label then some small
  else
    let written := 'x' :: 'n' :: '-' :: '-' :: Punycode.encode small
    if isLabel small ∧ written.length ≤ maxLabel then some written else none

/-- A host name as it goes out. -/
def name? (name : List Char) : Option (List Char) :=
  ((Text.split '.' name).mapM label?).map (Text.join ['.'])

end EchoWatch.Net.Host
