import EchoWatch.Command.Program
import EchoWatch.Command.Transcript
import EchoWatch.Service
/-!
# Running the programs

A program is a function of its command line and its surroundings: the files and what reads them, the
clocks, the client for requests, the capture for packets and the standard output. `Tool.run` and
`Daemon.run` give all that comes of it.

The standard output may refuse a text that it cannot encode. What a program prints itself then comes
back to it as an error, which hardly any of its commands is prepared for (`Deed.printing`).
-/

namespace EchoWatch.Command

structure Surroundings where
  files : Directory
  /-- What finds the documents in files. -/
  read : Yaml.Loader
  now : Moment
  /-- The clock of the journal. -/
  journalTime : Moment
  /-- What posts requests. -/
  client : Client
  agent : String
  interface : String
  /-- What opening the capture fails with. -/
  refusal : Option Monitor.Trouble
  script : Service.Script
  /-- The error with which the standard output refuses a text, if it does. -/
  refuses? : String → Option String

/-- A client at work that has not been asked for anything yet. -/
def Surroundings.transport (w : Surroundings) : Transport :=
  .fresh w.client

/-- An error that a program does not handle. -/
inductive Escape where
  | load (e : Settings.LoadError)
  | journal (e : Journal.SetupError)
  /-- The option for the configuration stands there without a value. -/
  | noConfig
  /-- The option for the level of the journal stands there without a value. -/
  | noLevel
  /-- The standard output refuses a text. -/
  | unprintable (text message : String)
  /-- A number that is to be printed is too long. -/
  | tooLong (e : Numeral.TooLong)
  deriving Repr

def Escape.message : Escape → String
  | load e => e.message
  | journal e => e.message
  | noConfig => "expected str, bytes or os.PathLike object, not list"
  | noLevel => "\x27list\x27 object has no attribute \x27upper\x27"
  | unprintable _ message => message
  | tooLong e => e.message

inductive Exit where
  | code (n : Nat)
  | returned
  | escaped (e : Escape)
  deriving Repr

structure Deed where
  exit : Exit
  events : List Event
  /-- What the client was asked to post. -/
  posts : List Post := []
  handlesSignals : Bool := false
  /-- The addresses for which a capture was opened, or refused. -/
  opened : List String := []
  /-- How often the capture was closed. -/
  closes : Nat := 0

/-- The end of a program, and all that became visible. -/
structure Ended where
  deed : Deed
  transcript : Transcript

namespace Deed

/-- A program that ends with a code after some events. -/
def ends (code : Nat) (events : List Event) : Deed :=
  { exit := .code code, events }

def escapes (e : Escape) : Deed :=
  { exit := .escaped e, events := [] }

/-- A deed with something done before it. -/
def after (events : List Event) (d : Deed) : Deed :=
  { d with events := events ++ d.events }

/-- Prints a text and goes on, unless the output refuses it. -/
def printing (w : Surroundings) (text : String) (rest : Deed) : Deed :=
  match w.refuses? text with
  | none => rest.after [.out text]
  | some message => .escapes (.unprintable text message)

/-- Prints a line and goes on. -/
def saying (w : Surroundings) (line : String) (rest : Deed) : Deed :=
  printing w (line ++ "\n") rest

/-- Prints some lines and goes on. A line with a number that is too long is an error. -/
def telling (w : Surroundings) (lines : List (Except Numeral.TooLong String)) (rest : Deed) :
    Deed :=
  lines.foldr (fun line rest => match line with
    | .ok line => saying w line rest
    | .error e => .escapes (.tooLong e)) rest

def shown (w : Surroundings) (journal : Journal) (files : Directory) (d : Deed) : Ended :=
  ⟨d, .ofEvents w.refuses? journal w.journalTime files d.events⟩

end Deed

/-- A program that stops at its command line. -/
def Stop.deed (w : Surroundings) : Stop → Deed
  | .help text => .printing w text (.ends 0 [])
  | .refused usage program message =>
    .ends 2 [.complain usage, .complain s!"{program}: error: {message}"]

/-- Journal entries as events. -/
def logged (entries : List Entry) : List Event :=
  entries.map .log

/-! ### The program with commands -/

namespace Tool

/-- The part of the program that runs commands. -/
def source : String := "woodwatch.cli"

/-- Why a configuration and its peers cannot be had. -/
inductive ReadError where
  | load (e : Settings.LoadError)
  | roster (e : Roster.BuildError)
  deriving Repr

def ReadError.message : ReadError → String
  | .load e => e.message
  | .roster e => e.message

/-- The configuration in a file, and its peers. -/
def readAll (w : Surroundings) (path : String) : Except ReadError (Settings × Board) :=
  match Settings.load w.read w.files path with
  | .error e => .error (.load e)
  | .ok s =>
    match Board.ofSettings s false with
    | .error e => .error (.roster e)
    | .ok b => .ok (s, b)

/-- Runs on a configuration and its peers, or reports that they cannot be had. -/
def withPeers (w : Surroundings) (path : String) (report : String → String)
    (run : Settings → Board → Deed) : Deed :=
  match readAll w path with
  | .ok (s, b) => run s b
  | .error e => .ends 1 [.complain (report e.message)]

def loadFailure (message : String) : String :=
  s!"Error loading config: {message}"

def count (n : Nat) : String :=
  String.ofList (Numeral.ofNat n)

/-- Runs on a configuration file that is there, or reports that it is not. -/
def withFile (w : Surroundings) (path : String) (run : Unit → Deed) : Deed :=
  match w.files.place path with
  | .file _ _ | .directory => run ()
  | .blocked .nameTooLong =>
    .escapes (.load (.refused .nameTooLong path))
  | .vacant _ | .blocked _ => .ends 1 [.complain s!"Error: Config file not found: {path}"]

def validate (w : Surroundings) (path : String) : Deed :=
  withFile w path fun _ =>
    withPeers w path (fun message => s!"✗ Configuration invalid: {message}") fun s b =>
      let peers := count b.roster.peers.length
      let cycle := s.monitorCycle
      let timeout := s.peerTimeout
      let notifier := s.notifier.type
      .telling w [
        .ok s!"✓ Configuration valid: {path}", .ok s!"  - {peers} peer(s) configured",
        .ok s!"  - Monitor cycle: {cycle}", .ok s!"  - Peer timeout: {timeout}",
        .ok s!"  - Notifier: {notifier}"] (.ends 0 [])

/-- What is told about a peer. A threshold may be too long to be told. -/
def peerLines (i : Nat) (p : Peer) : List (Except Numeral.TooLong String) :=
  let position := count (i + 1)
  let name := p.name
  let network := p.range.text
  let limits := p.debouncer.limits
  let webhook := p.webhook.getD "(none)"
  [
    .ok s!"{position}. {name}", .ok s!"   Network:        {network}",
    (Numeral.written limits.up).map fun up => s!"   Up threshold:   {up}",
    (Numeral.written limits.down).map fun down => s!"   Down threshold: {down}",
    .ok s!"   Webhook:        {webhook}", .ok ""]

def listPeers (w : Surroundings) (path : String) : Deed :=
  withPeers w path loadFailure fun _ b =>
    let peers := count b.roster.peers.length
    let lines := b.roster.peers.zipIdx.flatMap fun (p, i) => peerLines i p
    .telling w (.ok s!"Configured peers ({peers}):\n" :: lines) (.ends 0 [])

/-- Tells which peer an address belongs to. -/
def matchPeer (w : Surroundings) (path address : String) : Deed :=
  withPeers w path loadFailure fun _ b =>
    let route := b.roster.route address
    let noted := logged (b.packetEntries address route)
    match route with
    | .peer i =>
      let name := ((b.roster.peers[i]?).map Peer.name).getD ""
      let network := ((b.roster.peers[i]?).map fun p => p.range.text).getD ""
      (Deed.saying w s!"{address} → {name} ({network})" (.ends 0 [])).after noted
    | _ => (Deed.saying w s!"No configured peer matches {address}" (.ends 1 [])).after noted

/-- Tells that a delivery came upon an error, or that there is no notifier to make it. -/
def tellError (w : Surroundings) (type message : String) : Deed :=
  .saying w s!"  ✗ {type}: {message}" (.ends 1 [.log (.failure source "Error sending test event")])

/-- Tells how a delivery ended. -/
def tellOutcome (w : Surroundings) (type target : String) : Outcome → Deed
  | .delivered => .saying w s!"  ✓ {type} → {target}" (.ends 0 [])
  | .undelivered => .saying w s!"  ✗ {type} → {target}" (.ends 1 [])
  | .raised e => tellError w type e.message

/-- Delivers a notice by hand. -/
def deliver (w : Surroundings) (s : Settings) (n : Notice) (target : String) : Deed :=
  let type := s.notifier.type
  match Monitor.carrierOf s w.agent w.transport with
  | .error e => tellError w type e.message
  | .ok carrier =>
    let (d, carrier) := carrier.carry n target
    let told := (tellOutcome w type target d.outcome).after (logged d.entries)
    { told with posts := carrier.calls }

/-- The notice that a peer has a new state. One without a value shows as an empty list, and makes
the notice invalid. The peer comes from a file and is down, so that its state has a name. -/
def noticeOf (w : Surroundings) (p : Peer) (state : Option String) : Notice :=
  let made := Notice.ofTransition p.name p.debouncer.wording (state.getD "[]") none w.now
  { made with newState := state.getD "" }

/-- Sends a notice about a peer. -/
def notify (w : Surroundings) (path peer : String) (state : Option String) : Deed :=
  withPeers w path loadFailure fun s b =>
    match (b.roster.find? peer).bind fun i => b.roster.peers[i]? with
    | none =>
      .ends 1 (.complain s!"Error: Peer \x27{peer}\x27 not found" ::
        .complain "\nAvailable peers:" ::
        b.roster.peers.map fun p =>
          let name := p.name
          .complain s!"  - {name}")
    | some p =>
      let name := p.name
      match p.webhook with
      | none => .ends 1 [.complain s!"Error: Peer \x27{name}\x27 has no webhook configured"]
      | some target =>
        let n := noticeOf w p state
        let title := n.title
        .saying w s!"Sending test event: {title}" (deliver w s n target)

def runDeed (m : Monitor) (r : Service.Run) : Deed :=
  let events := logged (Service.opening m ++ r.entries)
  let (code, told) : Nat × List Event := match r.error with
    | none => (0, [])
    | some e =>
      if r.isForbidden then
        (1, [.complain "Error: capturing ICMP packets requires root or CAP_NET_RAW"])
      else
        let message := Service.errorMessage e
        (1, [.complain s!"Error running daemon: {message}"])
  { exit := .code code, events := events ++ told, handlesSignals := true
    opened := [m.address], closes := r.session.monitor.source.getD 0 }

def serve (w : Surroundings) (path listen : String) (verbose : Bool) : Deed :=
  withFile w path fun _ =>
    let failed (message : String) : Deed :=
      .ends 1 [.complain s!"Error running daemon: {message}"]
    let greeting := s!"Starting Woodwatch daemon with config: {path}\n"
    match w.refuses? greeting with
    | some message => failed message
    | none =>
      let deed : Deed :=
        match Service.build w.read w.files path listen verbose w.agent w.transport with
        | .error e => failed e.message
        | .ok m => runDeed m (Service.run ⟨m, w.now, .ofInt 0⟩ w.interface w.refusal w.script)
      deed.after [.out greeting]

/-- Does what was ordered. Paths are taken without the steps that stay where they are. -/
def perform (w : Surroundings) (o : Order) : Deed :=
  match o.task, o.config.map Directory.tidy with
  | .explain, _ => .printing w (grammar.help program) (.ends 0 [])
  | .validate, some path => validate w path
  | .listPeers, some path => listPeers w path
  | .matchPeer address, some path => matchPeer w path address
  | .serve listen verbose, some path => serve w path listen verbose
  | .notify peer state, some path => notify w path peer state
  | .validate, none | .serve _ _, none => .escapes .noConfig
  | .listPeers, none | .matchPeer _, none | .notify _ _, none =>
    .ends 1 [.complain (loadFailure Escape.noConfig.message)]

def run (w : Surroundings) (args : List String) : Ended :=
  match order args with
  | .error stop => (stop.deed w).shown w .initial w.files
  | .ok o =>
    match o.level with
    | none => (Deed.escapes .noLevel).shown w .initial w.files
    | some level =>
      let (_, journal, files) := Journal.initial.setup w.files { level } "stdout"
      (perform w o).shown w journal files

end Tool

/-! ### The program that runs the service -/

namespace Daemon

/-- The families of errors that the program is prepared for when it has no monitor. It expects
files, values and addresses to be wrong, but not documents that cannot be read or durations that
cannot be counted. -/
def prepared : List Service.Family :=
  [.system, .value, .monitor]

def runDeed (m : Monitor) (r : Service.Run) : Deed :=
  let events := logged (Service.opening m ++ r.entries)
  let (exit, told) : Exit × List Entry := match r.error with
    | none => (.returned, [])
    | some _ =>
      if r.isForbidden then
        (.code 1,
          [.critical Service.source "Capturing ICMP packets requires root or CAP_NET_RAW"])
      else (.code 1, [{ Entry.critical Service.source "Fatal error" with withError := true }])
  { exit, events := events ++ logged told, handlesSignals := true
    opened := [m.address], closes := r.session.monitor.source.getD 0 }

/-- The report that there is no monitor, and why. -/
def buildFailure (config : String) (e : Service.BuildError) : Entry :=
  let message := e.message
  .critical Service.source s!"Error loading config {config}: {message}"

def perform (w : Surroundings) (o : Order) (config : String) : Deed :=
  match Service.build w.read w.files config o.listen o.verbose w.agent w.transport with
  | .ok m => runDeed m (Service.run ⟨m, w.now, .ofInt 0⟩ w.interface w.refusal w.script)
  | .error e =>
    match prepared.contains e.family, e with
    | false, .load cause => .escapes (.load cause)
    -- what is wrong with a monitor is always in a family that is expected
    | _, e => .ends 1 [.log (buildFailure config e)]

def run (w : Surroundings) (args : List String) : Ended :=
  match order args with
  | .error stop => (stop.deed w).shown w .initial w.files
  | .ok o =>
    match o.level with
    | none => (Deed.escapes .noLevel).shown w .initial w.files
    | some level =>
      match Journal.initial.setup w.files { level, file := o.logFile } "stdout" with
      | (.error e, journal, files) => (Deed.escapes (.journal e)).shown w journal files
      | (.ok _, journal, files) =>
        let deed : Deed := match o.config with
          | none => .escapes .noConfig
          -- the journal may have made the file that the configuration is read from
          | some config => perform { w with files } o config
        deed.shown w journal files

end Daemon
end EchoWatch.Command
