import EchoWatch.Journal.Entry
import EchoWatch.Notice
import EchoWatch.Text.Lower
import EchoWatch.Value.Literal
/-!
# Channels

A channel knows how a notice is worded for its receiver and which headers go with it. A plain
webhook gets the notice as it is; a Slack webhook gets an attachment whose colour shows the state.
-/

namespace EchoWatch

inductive ChannelKind where
  | webhook | slack
  deriving DecidableEq, Inhabited, Repr

namespace ChannelKind

/-- The name that a configuration gives a kind. -/
def typeName : ChannelKind → String
  | webhook => "webhook"
  | slack => "slack"

/-- The name that the journal gives a kind. -/
def className : ChannelKind → String
  | webhook => "WebhookNotifier"
  | slack => "SlackNotifier"

def all : List ChannelKind :=
  [slack, webhook]

end ChannelKind

/-- A channel with its options. -/
structure Channel where
  kind : ChannelKind
  options : List (Value × Value)
  deriving Inhabited, Repr

namespace Channel

def unknownType (name : String) : String :=
  s!"Unknown notifier type: {name}"

/-- The version that requests are signed with. -/
def version : String := "0.1.0"

/-- The signature of requests made on a system. -/
def userAgent (system machine : String) : String :=
  let system := String.ofList (Text.lower system.toList)
  s!"woodwatch/{version} ({system}; {machine})"

def color (state : String) : String :=
  if state = "Up" then "good" else if state = "Down" then "danger" else "warning"

/-- The body for a Slack webhook, unless the moment of the check has no epoch seconds. -/
def slackBody? (options : List (Value × Value)) (n : Notice) : Option Value :=
  n.timestamp.epochSeconds?.map fun ts =>
    let attachment := Value.map [
      (.text "text", .text n.text),
      (.text "color", .text (color n.newState)),
      (.text "ts", .int ts)]
    let username := match Value.lookup? "username" options with
      | some name => [(Value.text "username", name)]
      | none => []
    .map ([(.text "text", .text n.title), (.text "attachments", .list [attachment])] ++ username)

/-- The body of a request, unless the moment of the check has no epoch seconds. -/
def body? (c : Channel) (n : Notice) : Option Value :=
  match c.kind with
  | .webhook => some n.payload
  | .slack => slackBody? c.options n

/-- The headers of a request: the two of its own, then the configured ones in their place or after
them. Headers that are no mapping give their value back. -/
def headers (c : Channel) (agent : String) : Except Value (List (Value × Value)) :=
  let own := [(Value.text "Content-Type", Value.text "application/json"),
    (Value.text "User-Agent", Value.text agent)]
  match Value.lookup? "headers" c.options with
  | none => .ok own
  | some (.map more) => .ok (more.foldl (fun all (k, v) => Value.insert all k v) own)
  | some other => .error other

/-- How long a request may take, in seconds. -/
def timeout (c : Channel) : Value :=
  (Value.lookup? "timeout" c.options).getD (.int 10)

end Channel
end EchoWatch
