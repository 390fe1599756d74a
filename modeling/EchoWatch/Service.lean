import EchoWatch.Capture.Listener
import EchoWatch.Settings.Load
import EchoWatch.Watch.Session
/-!
# The service

The service runs a monitor on a capture until a signal asks for the end or the capture fails. It
can be started from a file only if the configuration is in order and a monitor can be built from
it.
-/

namespace EchoWatch

inductive Signal where
  | hangUp | interrupt | terminate | quit
  deriving DecidableEq, Repr

namespace Signal

def name : Signal → String
  | hangUp => "SIGHUP"
  | interrupt => "SIGINT"
  | terminate => "SIGTERM"
  | quit => "SIGQUIT"

/-- The signals that end the service, in the order in which it asks to be told of them. -/
def all : List Signal :=
  [hangUp, interrupt, terminate, quit]

def ofName? (s : String) : Option Signal :=
  all.find? fun g => g.name = s

end Signal

namespace Service

def source : String := "woodwatch.daemon"

inductive BuildError where
  | load (e : Settings.LoadError)
  | monitor (e : Monitor.BuildError)
  deriving Repr

def BuildError.message : BuildError → String
  | .load e => e.message
  | .monitor e => e.message

/-! ### Families of errors -/

/-- The families that errors belong to. A program can be prepared for an error by its family. -/
inductive Family where
  /-- The system refuses something. -/
  | system
  /-- A value is not what it should be. -/
  | value
  /-- A monitor is not used as it should be. -/
  | monitor
  /-- A text is no document. -/
  | document
  /-- A number is out of range. -/
  | range
  /-- What is looked up is not there. -/
  | lookup
  /-- Something is not of the type that it is taken for. -/
  | type
  /-- Something is nested too deep. -/
  | depth
  deriving DecidableEq, Repr

/-- The family of what is wrong with a document. Bytes that are no text count as a value. -/
def documentFamily : Yaml.Error → Family
  | .malformed => .document
  | .undecodable | .badValue _ => .value
  | .emptyNumber | .notTruth _ => .lookup
  | .notTimestamp | .wrappedTimestamp => .type
  | .numberTooLarge | .placeTooLarge => .range
  | .tooDeep _ => .depth

def loadFamily : Settings.LoadError → Family
  | .notFound _ | .refused _ _ => .system
  | .unreadable cause => documentFamily cause
  | .notMapping _ | .faulty _ => .value
  | .overflow _ => .range

def monitorFamily : Monitor.BuildError → Family
  | .emptyAddress => .monitor
  | .roster _ | .unknownNotifier _ => .value

def BuildError.family : BuildError → Family
  | .load e => loadFamily e
  | .monitor e => monitorFamily e

/-! ### Running -/

/-- Builds the monitor of a configuration file. -/
def build (read : Yaml.Loader) (d : Directory) (path address : String) (verbose : Bool)
    (agent : String) (t : Transport) : Except BuildError Monitor :=
  match Settings.load read d path with
  | .error e => .error (.load e)
  | .ok s => (Monitor.build s address verbose (Monitor.carrierOf s agent t)).mapError .monitor

/-- What the journal says about the peers when a monitor has been built. -/
def opening (m : Monitor) : List Entry :=
  m.board.opening

/-- What happens while the service runs: looks at the capture, and the signal that ends it. -/
structure Script where
  looks : List Sniff
  signal : Signal

structure Run where
  /-- The error that ended it, if it was not a signal. -/
  error : Option Session.CallError
  /-- The journal; the entries of one thread are in order. -/
  entries : List Entry
  session : Session

def receivedEntry (g : Signal) : Entry :=
  let name := g.name
  .info source s!"Received {name}, shutting down"

/-- The error with which a capture ends. -/
def troubleOf (f : Listener.Failure) : Monitor.Trouble :=
  ⟨"OSError", f.message⟩

/-- Runs a session on a capture that is shown as being on the given interface. `refusal` is what
opening the capture fails with. -/
def run (s : Session) (shownInterface : String) (refusal : Option Monitor.Trouble)
    (script : Script) : Run :=
  let address := s.monitor.address
  let count := String.ofList (Numeral.ofNat s.monitor.board.roster.peers.length)
  let starting : Entry := .info source s!"Starting Woodwatch daemon with {count} peer(s)"
  let captured := s.monitor.opens && refusal.isNone
  let (addresses, failure) := Listener.sources script.looks
  let arrivals := addresses.map Session.Arrival.address ++ match failure with
    | some f => [.failure true (troubleOf f)]
    | none => [.call .stop]
  let (l, s, during) := s.listen arrivals refusal
  let listener := Listener.opened address
  let before := if captured then [Listener.openingEntry address none shownInterface] else []
  let after :=
    if captured then
      (if failure.isNone then [receivedEntry script.signal] else []) ++ listener.close.2
    else []
  let stopped : List Entry :=
    if l.error.isNone then [.info source "Woodwatch daemon stopped"] else []
  ⟨l.error, starting :: before ++ during ++ after ++ stopped, s⟩

/-- Whether a run ended because the capture is not permitted. -/
def Run.isForbidden (r : Run) : Bool :=
  match r.error with
  | some (.outside e) => e.kind = "PermissionError"
  | _ => false

def errorMessage : Session.CallError → String
  | .outside e => e.message
  | .alreadyListening => Monitor.alreadyListening
  | .notListening => Monitor.notListening
  | .outOfCalendar => Moment.outOfCalendar
  | .noSuchPeer => "no such peer"
  | .check (.refused e) => e.message
  | .check (.peer .clockMismatch) => "moments with and without a zone cannot be compared"
  | .check (.peer (.illegible e)) => e.message

end Service
end EchoWatch
