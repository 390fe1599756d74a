import EchoWatch.Command.Reading
/-!
# The programs and their command lines

There are two programs: one with commands for looking at a configuration, for running the service
and for sending a notice by hand, and one that only runs the service.
-/

namespace EchoWatch.Command

/-- The names of the levels of the journal. -/
def levelNames : List String :=
  ["DEBUG", "INFO", "WARNING", "ERROR", "CRITICAL"]

def listenOption : OptionSpec :=
  { spellings := ["--listen"], name := "listen", kind := .argument []
    help := "Interface address to listen to for IPv4 ICMP messages (default: 0.0.0.0)" }

def verboseOption : OptionSpec :=
  { spellings := ["--verbose"], name := "verbose", kind := .switch
    help := "Log packet routing and dispatch every state change" }

/-- The address to listen on when none is given. -/
def defaultAddress : String := "0.0.0.0"

/-! ### The program with commands -/

namespace Tool

def program : String := "woodwatch"

def configOption : OptionSpec :=
  { spellings := ["-c", "--config"], name := "config", kind := .argument []
    help := "Path to configuration file (default: config.yaml)" }

def stateOption : OptionSpec :=
  { spellings := ["-s", "--state"], name := "state", kind := .argument []
    help := "New state reported in the test event (default: Up)" }

/-- The command for notices. -/
def notifyGrammar : Grammar :=
  .leaf [stateOption] [⟨"peer", "Peer name"⟩]

def grammar : Grammar :=
  .mk (some "Woodwatch - peer liveness monitoring by ICMP echo requests")
    [
      configOption,
      { spellings := ["--log-level"], name := "log-level", kind := .argument levelNames
        help := "Log level (default: WARNING, INFO for daemon start)" }]
    [] ⟨"command", some "Available commands"⟩
    [
      ("config", "Configuration management",
        .group "subcommand" [("validate", "Validate configuration file", .leaf [] [])]),
      ("peer", "Peer inspection",
        .group "subcommand" [
          ("list", "List all configured peers", .leaf [] []),
          ("match", "Show which peer an address routes to",
            .leaf [] [⟨"address", "Source IP address"⟩])]),
      ("daemon", "Daemon management",
        .group "subcommand" [
          ("start", "Start daemon (foreground)", .leaf [listenOption, verboseOption] [])]),
      ("notify", "Send a test event to a peer's webhook", notifyGrammar)]

inductive Task where
  /-- Explain the program, because the command is not complete. -/
  | explain
  | validate
  | listPeers
  | matchPeer (address : String)
  | serve (listen : String) (verbose : Bool)
  | notify (peer : String) (state : Option String)
  deriving DecidableEq, Repr

/-- A command line that was understood. An option may stand there without a value. -/
structure Order where
  config : Option String
  level : Option String
  task : Task
  deriving DecidableEq, Repr

def taskOf (p : Parsed) : Task :=
  match p.path with
  | ["config", "validate"] => .validate
  | ["peer", "list"] => .listPeers
  | ["peer", "match"] => .matchPeer ((p.value? "address" "").getD "")
  | ["daemon", "start"] => .serve ((p.value? "listen" defaultAddress).getD "") (p.isOn "verbose")
  | ["notify"] => .notify ((p.value? "peer" "").getD "") (p.value? "state" "Up")
  | _ => .explain

/-- The level of the journal: a service shows what it is doing unless told otherwise. Without a
command there is no journal to speak of. -/
def levelOf (p : Parsed) : Option String :=
  let level := p.value? "log-level" "WARNING"
  match p.path.head? with
  | none => some "WARNING"
  | some "daemon" => if level = some "WARNING" then some "INFO" else level
  | some _ => level

def order (args : List String) : Except Stop Order :=
  (grammar.read program args).map fun p =>
    { config := p.value? "config" "config.yaml", level := levelOf p, task := taskOf p }

end Tool

/-! ### The program that runs the service -/

namespace Daemon

def program : String := "woodwatch-daemon"

def grammar : Grammar :=
  .mk (some "Woodwatch peer liveness daemon")
    [
      { spellings := ["--config"], name := "config", kind := .argument [], required := true
        help := "Path to a YAML or JSON configuration file" },
      listenOption, verboseOption,
      { spellings := ["--log-level"], name := "log-level", kind := .argument levelNames
        help := "Log level (default: INFO)" },
      { spellings := ["--log-file"], name := "log-file", kind := .argument []
        help := "Optional log file path (logs to console if not specified)" }]
    [] ⟨"", none⟩ []

/-- A command line that was understood. An option may stand there without a value. -/
structure Order where
  config : Option String
  listen : String
  verbose : Bool
  level : Option String
  logFile : Option String
  deriving DecidableEq, Repr

def order (args : List String) : Except Stop Order :=
  (grammar.read program args).map fun p =>
    { config := p.value? "config" "", listen := (p.value? "listen" defaultAddress).getD ""
      verbose := p.isOn "verbose", level := p.value? "log-level" "INFO"
      logFile := (p.values.lookup "log-file").join }

end Daemon
end EchoWatch.Command
