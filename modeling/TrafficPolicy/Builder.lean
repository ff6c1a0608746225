import TrafficPolicy.Policy

/-!
# Builders

A `Builder` collects the directives of a policy. Modifiers set the context for the directives
after them. The first call that cannot be made a directive leaves its error in the builder; later
calls add nothing, and compiling reports that error. `Statement` lists the calls, and
`Builder.run` makes them one after the other.
-/

namespace TrafficPolicy

/-- A policy under construction. -/
structure Builder where
  context : Context := {}
  program : List Directive := []
  error : Option PolicyError := none
  deriving DecidableEq, Repr

namespace Builder

/-- The builder that has collected nothing yet. -/
def empty : Builder := {}

/-! ## Modifiers -/

/-- Later directives block. -/
def block (builder : Builder) : Builder :=
  { builder with context := builder.context.withAction .block }

/-- Later directives allow. -/
def allow (builder : Builder) : Builder :=
  { builder with context := builder.context.withAction .allow }

/-- Later directives apply to a scope. -/
def scope (builder : Builder) (scope : Scope) : Builder :=
  { builder with context := builder.context.withScope scope }

/-- Later directives ask for a weight. -/
def weight (builder : Builder) (weight : WeightHint) : Builder :=
  { builder with context := builder.context.withWeight weight }

/-! ## Directives -/

/-- Adds the directive of a kind, or keeps the error of the call that asked for it. -/
def push (builder : Builder) (call : String) (kind : Kind) : Builder :=
  match builder.error with
  | some _ => builder
  | none =>
    match Directive.make call builder.context kind with
    | .ok directive => { builder with program := builder.program ++ [directive] }
    | .error error => { builder with error := some error }

/-- Adds a directive for each kind of a list, which must not be empty. -/
def pushEach (builder : Builder) (call : String) (kinds : List Kind) : Builder :=
  if kinds.isEmpty then
    { builder with error := builder.error.or (some (.invalidArgument call .noValues)) }
  else kinds.foldl (fun builder kind => builder.push call kind) builder

/-- All traffic. -/
def all (builder : Builder) : Builder :=
  builder.push "all" .allTraffic

/-- Traffic on the loopback interface. -/
def localhost (builder : Builder) : Builder :=
  builder.push "localhost" .loopback

/-- The networks in reach without a router. -/
def localAreaNetwork (builder : Builder) : Builder :=
  builder.push "local_area_network" .localAreaNetwork

/-- Name resolution by the default server. -/
def nameResolution (builder : Builder) : Builder :=
  builder.push "domain_name_system" (.nameResolution [])

/-- Name resolution by the given servers; unspecified addresses do not count. -/
def nameResolutionVia (builder : Builder) (resolvers : List Address) : Builder :=
  builder.push "domain_name_system_via" (.nameResolution (resolvers.filter (!·.isUnspecified)))

/-- Programs. -/
def application (builder : Builder) (paths : List Path) : Builder :=
  builder.pushEach "application" (paths.map .application)

/-- Servers by the name they give themselves. -/
def peerName (builder : Builder) (names : List String) : Builder :=
  builder.pushEach "peer_name" (names.map .peerName)

/-- Hosts by name. -/
def host (builder : Builder) (names : List String) : Builder :=
  builder.pushEach "host" (names.map .hostName)

/-- A set of addresses. -/
def address (builder : Builder) (addresses : List Address) : Builder :=
  builder.push "ip_address" (.addresses addresses)

/-- What a tunnel carries. -/
def ikev2 (builder : Builder) : Builder :=
  builder.push "ikev2" .ikev2

/-- TCP ports. -/
def tcpPort (builder : Builder) (ports : List UInt16) : Builder :=
  builder.pushEach "tcp_port" (ports.map .tcpPort)

/-- UDP ports. -/
def udpPort (builder : Builder) (ports : List UInt16) : Builder :=
  builder.pushEach "udp_port" (ports.map .udpPort)

/-- Networks of local addresses. -/
def localSubnet (builder : Builder) (networks : List Network) : Builder :=
  builder.pushEach "local_subnet" (networks.map .localSubnet)

/-- Networks of remote addresses. -/
def remoteSubnet (builder : Builder) (networks : List Network) : Builder :=
  builder.pushEach "remote_subnet" (networks.map .remoteSubnet)

/-- Network interfaces. -/
def interface (builder : Builder) (indexes : List UInt64) : Builder :=
  builder.pushEach "network_interface" (indexes.map .interface)

/-! ## Compiling -/

/-- The policy that was built, or the first error. -/
def compile (builder : Builder) (resolver : Resolver) : Looked Policy :=
  match builder.error with
  | some error => .ofExcept (.error error)
  | none => Policy.compile resolver builder.program

end Builder

/-! ## Calls as data -/

/-- A call on a builder. -/
inductive Statement where
  | block
  | allow
  | scope (scope : Scope)
  | weight (hint : WeightHint)
  | all
  | localhost
  | localAreaNetwork
  | nameResolution
  | nameResolutionVia (resolvers : List Address)
  | application (paths : List Path)
  | peerName (names : List String)
  | host (names : List String)
  | address (addresses : List Address)
  | ikev2
  | tcpPort (ports : List UInt16)
  | udpPort (ports : List UInt16)
  | localSubnet (networks : List Network)
  | remoteSubnet (networks : List Network)
  | interface (indexes : List UInt64)
  deriving DecidableEq, Repr

namespace Builder

/-- Makes one call. -/
def call (builder : Builder) : Statement → Builder
  | .block => builder.block
  | .allow => builder.allow
  | .scope scope => builder.scope scope
  | .weight hint => builder.weight hint
  | .all => builder.all
  | .localhost => builder.localhost
  | .localAreaNetwork => builder.localAreaNetwork
  | .nameResolution => builder.nameResolution
  | .nameResolutionVia resolvers => builder.nameResolutionVia resolvers
  | .application paths => builder.application paths
  | .peerName names => builder.peerName names
  | .host names => builder.host names
  | .address addresses => builder.address addresses
  | .ikev2 => builder.ikev2
  | .tcpPort ports => builder.tcpPort ports
  | .udpPort ports => builder.udpPort ports
  | .localSubnet networks => builder.localSubnet networks
  | .remoteSubnet networks => builder.remoteSubnet networks
  | .interface indexes => builder.interface indexes

/-- Makes calls one after the other. -/
def run (builder : Builder) (statements : List Statement) : Builder :=
  statements.foldl call builder

end Builder

end TrafficPolicy
