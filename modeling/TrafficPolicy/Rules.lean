import TrafficPolicy.Directive
import TrafficPolicy.Filter

/-!
# Rules

The filters that stand for each kind of directive, one function per shape. Every filter has a
display name that tells what it does and on which layer.
-/

namespace TrafficPolicy.Rules

/-- The number of IP packets carried inside IP packets. -/
def ipInIp : UInt8 := 4

/-- The number of the Transmission Control Protocol. -/
def tcp : UInt8 := 6

/-- The number of the User Datagram Protocol. -/
def udp : UInt8 := 17

/-- The port of name servers. -/
def namePort : UInt16 := 53

/-- The flag that packets on the loopback interface carry. -/
def loopbackFlag : UInt32 := 1

/-- Private, multicast, link-local and broadcast networks. -/
def lanNetworks : List Network :=
  [.v4 0xC0A80000 16, .v4 0xAC100000 12, .v4 0x0A000000 8, .v4 0xE0000000 4, .v4 0xA9FE0000 16,
    .v4 0xFFFFFFFF 32]

/-- The network that tunnels give their local addresses from. -/
def tunnelNetwork : Network :=
  .v4 0x0A000000 8

/-- The name server that is meant when none is given. -/
def defaultResolver : Address :=
  .ofOctets 10 255 0 1

/-- How a filter's display name begins. -/
def verb : Action → String
  | .allow => "Permit"
  | .block => "Block"

/-- A filter with a display name made of its action, what it is about, and its layer. -/
def filter (action : Action) (weight : UInt8) (conditions : List Condition) (what : String)
    (layer : Layer) : Filter where
  layer := layer
  action := action
  weight := weight
  conditions := conditions
  name := s!"{verb action} {what} ({layer.label})"

/-- Filters that block everything. -/
def blockAll (scope : Scope) (weight : UInt8) : List Filter :=
  (Layer.inScope scope).map (filter .block weight [] "all")

/-- Filters that allow loopback traffic. -/
def allowLoopback (scope : Scope) (weight : UInt8) : List Filter :=
  (Layer.inScope scope).map (filter .allow weight [.flags loopbackFlag] "on loopback")

/-- Which end of a connection a field describes. -/
def sideOf (field : Field) : String :=
  if field = .localAddress then "local" else "remote"

/-- Filters for addresses in a network. -/
def subnet (action : Action) (field : Field) (weight : UInt8) (network : Network) : List Filter :=
  (Layer.ofFamily network.family).map
    (filter action weight [.inNetwork field network] s!"{sideOf field} subnet {network}")

/-- Filters that allow the networks in reach without a router. -/
def allowLan (weight : UInt8) : List Filter :=
  lanNetworks.flatMap (subnet .allow .remoteAddress weight)

/-- The conditions of name resolution by either transport. -/
def nameConditions : List Condition :=
  [.eq .remotePort (.u16 namePort), .eq .protocol (.u8 udp), .eq .protocol (.u8 tcp)]

/-- The name servers that are meant, if the scope has a default for none. -/
def effectiveResolvers (scope : Scope) (resolvers : List Address) :
    Except PolicyError (List Address) :=
  if !resolvers.isEmpty then .ok resolvers
  else if scope.includes .v4 then .ok [defaultResolver]
  else .error (.invalidPolicy .noResolver)

/-- Filters that block name resolution. -/
def denyNames (scope : Scope) (weight : UInt8) : List Filter :=
  (Layer.inScope scope).map (filter .block weight nameConditions "DNS")

/-- Filters that allow name resolution by the servers of one family. -/
def allowNames (weight : UInt8) (resolvers : List Address) (family : Family) : List Filter :=
  match resolvers.filter (·.family = family) with
  | [] => []
  | servers =>
    let conditions :=
      nameConditions ++ servers.map fun server => .eq .remoteAddress (.address server)
    (Layer.ofFamily family).map (filter .allow weight conditions "DNS")

/-- Filters that restrict name resolution to the given servers. -/
def nameResolution (scope : Scope) (deny allow : UInt8) (resolvers : List Address) :
    Except PolicyError (List Filter) :=
  if deny < allow then do
    let servers ← effectiveResolvers scope resolvers
    return denyNames scope deny ++ allowNames allow servers .v4 ++ allowNames allow servers .v6
  else .error (.invalidPolicy (.weightsNotOrdered deny allow))

/-- Filters for an application. -/
def application (action : Action) (scope : Scope) (weight : UInt8) (id : AppId) : List Filter :=
  (Layer.inScope scope).map (filter action weight [.eq .appId (.app id)] "application")

/-- The filter for connections to a server of a given name. -/
def peerName (action : Action) (weight : UInt8) (name : String) : Filter :=
  filter action weight [.eq .peerName (.text (Text.asciiLowercase name))] s!"peer name {name}"
    .connectV4

/-- Filters for one address. -/
def address (action : Action) (weight : UInt8) (address : Address) : List Filter :=
  (Layer.ofFamily address.family).map
    (filter action weight [.eq .remoteAddress (.address address)] s!"address {address}")

/-- Filters for each of some addresses. -/
def addresses (action : Action) (weight : UInt8) (addresses : List Address) : List Filter :=
  addresses.flatMap (address action weight)

/-- Filters that allow what a tunnel carries. -/
def allowIkev2 (weight : UInt8) : List Filter :=
  subnet .allow .localAddress weight tunnelNetwork ++
    (Layer.ofFamily .v4).map (filter .allow weight [.eq .protocol (.u8 ipInIp)] "IP-in-IP")

/-- How a transport is called in display names. -/
def transportLabel (protocol : UInt8) : String :=
  if protocol = tcp then "TCP" else "UDP"

/-- Filters that allow a port. -/
def allowPort (protocol : UInt8) (port : UInt16) (weight : UInt8) : List Filter :=
  Layer.forPorts.map
    (filter .allow weight [.eq .protocol (.u8 protocol), .eq .remotePort (.u16 port)]
      s!"{transportLabel protocol} port {port}")

/-- Filters that allow an interface. -/
def allowInterface (scope : Scope) (weight : UInt8) (index : UInt64) : List Filter :=
  (Layer.inScope scope).map
    (filter .allow weight [.eq .localInterface (.u64 index)] s!"interface {index}")

end TrafficPolicy.Rules
