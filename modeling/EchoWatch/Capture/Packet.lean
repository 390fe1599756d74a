/-!
# Captured packets

A packet is a stack of layers, from the outside in. It has a layer when the layer stands anywhere
in it, and the outermost one of its kind counts. The kernel is asked, by a filter expression, for
echo requests only, but what it hands over is looked at once more.
-/

namespace EchoWatch

/-- One layer of a packet, as far as echo requests are concerned. -/
inductive Layer where
  | ip (source : String)
  | icmp (type : Int)
  | other (name : String)
  deriving DecidableEq, Repr

abbrev Packet := List Layer

namespace Packet

/-- The type of an ICMP message that asks for an echo. -/
def echoRequest : Int := 8

/-- The source of the outermost IPv4 layer. -/
def source? (p : Packet) : Option String :=
  p.findSome? fun
    | .ip source => some source
    | _ => none

/-- The type of the outermost ICMP layer. -/
def icmpType? (p : Packet) : Option Int :=
  p.findSome? fun
    | .icmp type => some type
    | _ => none

/-- Whether a packet is an ICMP echo request over IPv4. -/
def isEchoRequest (p : Packet) : Bool :=
  p.source?.isSome && p.icmpType? = some echoRequest

def echoFilter : String := "icmp[icmptype] == icmp-echo"

/-- The address that stands for every address of the machine. -/
def anyAddress : String := "0.0.0.0"

def captureFilter (address : String) : String :=
  if address = anyAddress then echoFilter else s!"{echoFilter} and dst host {address}"

end Packet
end EchoWatch
