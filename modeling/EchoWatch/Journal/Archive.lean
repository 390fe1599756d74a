import EchoWatch.Journal.Basic
/-!
# Archives

An archive is a journal together with all that it writes to: streams for the console, known by their
names, and the files. Whoever uses it sets the journal up and logs, in any order; parts are known
by their names only, so that it makes no difference whether a part was there before a set-up.
-/

namespace EchoWatch
namespace Journal

inductive Call where
  /-- The journal is set up, with a stream for the console. -/
  | setup (o : Options) (stream : String)
  /-- A part logs a message. -/
  | log (time : Moment) (level : Level) (name template : String) (args : List Value)

inductive Reply where
  | installed (shown : Installed)
  | refused (e : SetupError)
  | logged
  /-- The template does not fit its arguments. -/
  | garbled (f : Template.Fault)
  deriving DecidableEq

end Journal

structure Archive where
  journal : Journal
  streams : String → String
  files : Directory

namespace Archive

open Journal

/-- An archive that nobody has set up. -/
def new (streams : String → String) (files : Directory) : Archive :=
  ⟨.initial, streams, files⟩

/-- The streams after the console, or the stream of the last resort, has shown a text. -/
def shown (a : Archive) (text : String) : String → String := fun stream =>
  if stream = a.journal.console.getD lastResort then a.streams stream ++ text
  else a.streams stream

def call (a : Archive) : Call → Reply × Archive
  | .setup o stream =>
    let (result, journal, files) := a.journal.setup a.files o stream
    (match result with
      | .ok shown => .installed shown
      | .error e => .refused e,
      { a with journal := journal, files := files })
  | .log time level name template args =>
    match a.journal.log a.files time level (sourceName name) template args with
    | .ok (text, files) =>
      (.logged, { a with streams := a.shown (text.getD ""), files := files })
    | .error f => (.garbled f, a)

/-- An archive after some calls. -/
def after (a : Archive) (calls : List Call) : Archive :=
  calls.foldl (fun a c => (a.call c).2) a

/-- The replies to some calls, one after the other. -/
def replies (a : Archive) : List Call → List Reply
  | [] => []
  | c :: rest => (a.call c).1 :: (a.call c).2.replies rest

end Archive
end EchoWatch
