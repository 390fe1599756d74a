import EchoWatch.Journal.Basic
/-!
# Transcripts

What a program prints, and what it writes to its journal, in order. The journal shares the standard
output; what other threads write is kept apart, because its place among the rest is not determined.

An output may refuse a text that it cannot encode. The program does not come to know when a line of
its journal is refused; the line is lost.
-/

namespace EchoWatch.Command

/-- One thing that a program does for others to see. -/
inductive Event where
  | out (text : String)
  | err (text : String)
  | log (e : Entry)
  deriving DecidableEq, Repr

/-- A line on the standard error output. -/
def Event.complain (text : String) : Event :=
  .err (text ++ "\n")

/-- What becomes visible of a program. -/
structure Transcript where
  stdout : String
  stderr : String
  /-- What other threads wrote. -/
  others : List (Thread × String)
  /-- The lines of the journal that the standard output refused. -/
  lost : List String
  files : Directory

namespace Transcript

def start (files : Directory) : Transcript :=
  { stdout := "", stderr := "", others := [], lost := [], files }

def addFrom (t : Thread) (text : String) (others : List (Thread × String)) :
    List (Thread × String) :=
  if others.any fun o => o.1 = t then
    others.map fun o => if o.1 = t then (t, o.2 ++ text) else o
  else others ++ [(t, text)]

/-- The journal shows a text. The standard output may refuse it with an error; the error output,
where it goes without a console, shows everything. -/
def receive (refuses? : String → Option String) (journal : Journal) (t : Thread) (text : String)
    (tr : Transcript) : Transcript :=
  if journal.console.isNone then { tr with stderr := tr.stderr ++ text }
  else if (refuses? text).isSome then { tr with lost := tr.lost ++ [text] }
  else if t = .main then { tr with stdout := tr.stdout ++ text }
  else { tr with others := addFrom t text tr.others }

def add (refuses? : String → Option String) (journal : Journal) (time : Moment) (tr : Transcript) :
    Event → Transcript
  | .out text => { tr with stdout := tr.stdout ++ text }
  | .err text => { tr with stderr := tr.stderr ++ text }
  | .log e =>
    let (shown, files) := journal.write tr.files time e
    match shown with
    | some text => receive refuses? journal e.thread text { tr with files }
    | none => { tr with files }

def ofEvents (refuses? : String → Option String) (journal : Journal) (time : Moment)
    (files : Directory) (events : List Event) : Transcript :=
  events.foldl (add refuses? journal time) (start files)

end Transcript
end EchoWatch.Command
