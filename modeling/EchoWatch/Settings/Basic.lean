import EchoWatch.Settings.Scalar
import EchoWatch.Value.Literal
/-!
# The configuration

A configuration names the peers to watch, how often to look at them, after how long a silence a
peer counts as missed, and where changes are reported. `Settings.ofValue` checks a document and
fills in defaults; each field's key has two spellings, `snake_case` and `PascalCase`, and the
second one wins where both are given.
-/

namespace EchoWatch

/-- The settings of one peer. Zero thresholds and an empty webhook stand for the common ones. -/
structure PeerSettings where
  name : String
  network : String
  upThreshold : Int
  downThreshold : Int
  webhook : String
  deriving DecidableEq, Repr

/-- How changes are delivered: the kind of notifier and its options. -/
structure NotifierSettings where
  type : String
  options : List (String × Value)
  deriving Repr

/-- A whole configuration, with the durations as they were written. -/
structure Settings where
  upThreshold : Int
  downThreshold : Int
  monitorCycle : String
  peerTimeout : String
  webhook : String
  notifier : NotifierSettings
  peers : List PeerSettings
  deriving Repr

namespace Settings

/-! ### Fields -/

/-- The two spellings of a field's key. -/
structure Key where
  snake : String
  pascal : String
  deriving DecidableEq, Repr

/-- The value of a field and the spelling it was given under. -/
def Key.find? (k : Key) (entries : List (Value × Value)) : Option (String × Value) :=
  match Value.lookup? k.pascal entries with
  | some v => some (k.pascal, v)
  | none => (Value.lookup? k.snake entries).map fun v => (k.snake, v)

/-- A field that must be there. -/
def required {α : Type} (k : Key) (read : Value → Check α) (entries : List (Value × Value)) :
    Check α :=
  match k.find? entries with
  | some (name, v) => (read v).located (.key name)
  | none => (Check.fault .missing).located (.key k.pascal)

/-- A field with a default. -/
def optional {α : Type} (k : Key) (read : Value → Check α) (default : α)
    (entries : List (Value × Value)) : Check α :=
  match k.find? entries with
  | some (name, v) => (read v).located (.key name)
  | none => .valid default

/-- A mapping of fields. -/
def asModel {α : Type} (model : String) (read : List (Value × Value) → Check α) : Value → Check α
  | .map entries => read entries
  | _ => .fault (.notModel model)

namespace Key

def upThreshold : Key := ⟨"up_threshold", "UpThreshold"⟩
def downThreshold : Key := ⟨"down_threshold", "DownThreshold"⟩
def monitorCycle : Key := ⟨"monitor_cycle", "MonitorCycle"⟩
def peerTimeout : Key := ⟨"peer_timeout", "PeerTimeout"⟩
def webhook : Key := ⟨"webhook", "Webhook"⟩
def notifier : Key := ⟨"notifier", "Notifier"⟩
def peers : Key := ⟨"peers", "Peers"⟩
def name : Key := ⟨"name", "Name"⟩
def network : Key := ⟨"network", "Network"⟩
def type : Key := ⟨"type", "Type"⟩
def options : Key := ⟨"config", "Config"⟩

end Key

/-! ### Durations -/

/-- A text that must be a duration for which a rule holds. -/
def asDuration (holds : Micros → Bool) (otherwise : String) (v : Value) : Check String :=
  (asText v).andThen fun s =>
    match Duration.parse s with
    | .ok us => if holds us then .valid s else .fault (.rule otherwise)
    | .error (.overflow cause) => .aborted cause
    | .error e => .fault (.rule e.message)

/-- The monitor cycle: a positive duration. -/
def asCycle : Value → Check String :=
  asDuration (0 < ·) "monitor_cycle must be positive"

/-- The peer timeout: a duration that is not negative. -/
def asTimeout : Value → Check String :=
  asDuration (0 ≤ ·) "peer_timeout must not be negative"

/-! ### Free options -/

/-- How a key is named in a location: by its notation when it is neither a text nor an integer that
a machine word holds. -/
def keyLocator : Value → Locator
  | .text s => .key s
  | .bool b => .index (if b then 1 else 0)
  | .int n =>
    if -9223372036854775808 ≤ n ∧ n < 9223372036854775808 then .index n
    else .key (Value.literal (.int n))
  | v => .key v.literal

/-- One entry of free options: the key is a text, the value is anything. -/
def asOption (entry : Value × Value) : Check (String × Value) :=
  match (asText entry.1).located (.key "[key]") with
  | .valid key => .valid (key, entry.2)
  | .invalid faults => (Check.invalid faults).located (keyLocator entry.1)
  | .aborted cause => .aborted cause

/-- Free options: a mapping with text keys. -/
def asOptions : Value → Check (List (String × Value))
  | .map entries => .all (entries.map asOption)
  | _ => .fault .notMapping

/-! ### The models -/

def asPeer : Value → Check PeerSettings :=
  asModel "PeerConfig" fun entries =>
    (required .name asNonemptyText entries
      |>.both (required .network asNonemptyText entries)
      |>.both (optional .upThreshold asCount 0 entries)
      |>.both (optional .downThreshold asCount 0 entries)
      |>.both (optional .webhook asText "" entries)).map
      fun ((((name, network), up), down), webhook) => ⟨name, network, up, down, webhook⟩

def asPeers : Value → Check (List PeerSettings)
  | .list items | .set items =>
    .all (items.zipIdx.map fun (item, i) => (asPeer item).located (.index i))
  | _ => .fault .notList

/-- The notifier: a webhook without options unless said otherwise. -/
def asNotifier : Value → Check NotifierSettings :=
  asModel "NotifierConfig" fun entries =>
    (optional .type asText "webhook" entries
      |>.both (optional .options asOptions [] entries)).map fun (type, options) => ⟨type, options⟩

def ofValue : Value → Check Settings :=
  asModel "Config" fun entries =>
    (optional .upThreshold asCount 0 entries
      |>.both (optional .downThreshold asCount 0 entries)
      |>.both (required .monitorCycle asCycle entries)
      |>.both (required .peerTimeout asTimeout entries)
      |>.both (optional .webhook asText "" entries)
      |>.both (optional .notifier asNotifier ⟨"webhook", []⟩ entries)
      |>.both (optional .peers asPeers [] entries)).map
      fun ((((((up, down), cycle), timeout), webhook), notifier), peers) =>
        ⟨up, down, cycle, timeout, webhook, notifier, peers⟩

/-! ### Times -/

/-- The length of a duration text; zero for a text that is none. -/
def micros (text : String) : Micros :=
  match Duration.parse text with
  | .ok us => us
  | .error _ => 0

/-- The monitor cycle in microseconds. -/
def cycle (s : Settings) : Micros :=
  micros s.monitorCycle

/-- How recently a peer must have been seen to count as seen. -/
def timeout (s : Settings) : Micros :=
  micros s.peerTimeout

def cycleSeconds (s : Settings) : Binary64 :=
  Duration.toSeconds s.cycle

end Settings
end EchoWatch
