import TrafficPolicy.Filter

/-!
# Packets and matching

A `Packet` is what the engine sees at a layer. `Filter.accepts` holds when, for every field that
the filter's conditions look at, one of the conditions on that field holds: conditions on one
field are alternatives, different fields must all be satisfied. A filter without conditions
accepts everything.
-/

namespace TrafficPolicy

/-- The attributes of a packet that is being classified. -/
structure Packet where
  layer : Layer
  remoteAddress : Address
  localAddress : Address
  remotePort : UInt16
  protocol : UInt8
  flags : UInt32 := 0
  app : Option AppId := none
  peerName : Option String := none
  interface : UInt64 := 0
  deriving DecidableEq, Repr

namespace Packet

/-- The layer at which connections to an address are classified. -/
def outboundLayer : Family → Layer
  | .v4 => .connectV4
  | .v6 => .connectV6

/-- A packet that goes out to an address, with all else left unspecified. -/
def outbound (remote : Address) (remotePort : UInt16) (protocol : UInt8) : Packet where
  layer := outboundLayer remote.family
  remoteAddress := remote
  localAddress := .unspecified remote.family
  remotePort := remotePort
  protocol := protocol

end Packet

namespace Condition

/-- Whether a packet meets a condition. A comparison that does not fit the field is never met. -/
def holds (condition : Condition) (packet : Packet) : Bool :=
  match condition.field, condition.op, condition.value with
  | .remotePort, .equal, .u16 port => packet.remotePort = port
  | .protocol, .equal, .u8 protocol => packet.protocol = protocol
  | .remoteAddress, .equal, .address address => packet.remoteAddress = address
  | .remoteAddress, .inNetwork, .network network => network.contains packet.remoteAddress
  | .localAddress, .equal, .address address => packet.localAddress = address
  | .localAddress, .inNetwork, .network network => network.contains packet.localAddress
  | .flags, .flagsAllSet, .u32 flags => packet.flags &&& flags = flags
  | .appId, .equal, .app app => packet.app = some app
  | .peerName, .equal, .text name =>
    packet.peerName.any fun peer => Text.asciiLowercase peer = Text.asciiLowercase name
  | .localInterface, .equal, .u64 interface => packet.interface = interface
  | _, _, _ => false

/-- Whether a packet meets a list of conditions: each has one on its field that holds. -/
def allMet (conditions : List Condition) (packet : Packet) : Bool :=
  conditions.all fun condition =>
    conditions.any fun other => other.field = condition.field && other.holds packet

end Condition

namespace Filter

/-- Whether a packet meets the conditions of a filter, whatever its layer. -/
def accepts (filter : Filter) (packet : Packet) : Bool :=
  Condition.allMet filter.conditions packet

/-- Whether a filter applies to a packet: it accepts it on its own layer. -/
def applies (filter : Filter) (packet : Packet) : Bool :=
  filter.layer = packet.layer && filter.accepts packet

end Filter

end TrafficPolicy
