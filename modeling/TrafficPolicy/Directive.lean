import TrafficPolicy.Error
import TrafficPolicy.Layer

/-!
# Directives

A `Directive` is one statement of a policy: an action, a scope and a requested weight, taken from
the `Context` it was made in, and the `Kind` of traffic it is about. `Directive.make` refuses
kinds that have no filters for the action or scope, and kinds with unusable values.
-/

namespace TrafficPolicy

/-- The weight that is asked for a directive. -/
inductive WeightHint where
  /-- The next free weight in order of declaration. -/
  | implicit
  /-- This weight; for a directive on name resolution, the weight of its allow filters. -/
  | fixed (weight : UInt8)
  /-- The weights of the deny and allow filters of a directive on name resolution. -/
  | pair (deny allow : UInt8)
  deriving DecidableEq, Repr

/-- What a directive takes over from the statements around it. -/
structure Context where
  action : Action := .block
  scope : Scope := .both
  weight : WeightHint := .implicit
  deriving DecidableEq, Repr

namespace Context

/-- The context with another action. -/
def withAction (context : Context) (action : Action) : Context :=
  { context with action }

/-- The context with another scope. -/
def withScope (context : Context) (scope : Scope) : Context :=
  { context with scope }

/-- The context with another weight. -/
def withWeight (context : Context) (weight : WeightHint) : Context :=
  { context with weight }

end Context

/-- What a directive is about. -/
inductive Kind where
  | allTraffic
  | loopback
  | localAreaNetwork
  /-- Name resolution by these servers; none stands for the default server. -/
  | nameResolution (resolvers : List Address)
  | application (path : Path)
  /-- Connections to a server that names itself so. -/
  | peerName (name : String)
  /-- A host whose addresses are looked up when the policy is compiled. -/
  | hostName (name : String)
  | addresses (addresses : List Address)
  | ikev2
  | tcpPort (port : UInt16)
  | udpPort (port : UInt16)
  | localSubnet (network : Network)
  | remoteSubnet (network : Network)
  | interface (index : UInt64)
  deriving DecidableEq, Repr

namespace Kind

/-- The name of a kind. -/
def name : Kind → String
  | allTraffic => "all-traffic"
  | loopback => "loopback"
  | localAreaNetwork => "local-area-network"
  | nameResolution _ => "domain-name-system"
  | application _ => "application-path"
  | peerName _ => "peer-name"
  | hostName _ => "host-name"
  | addresses _ => "ip-address-set"
  | ikev2 => "ikev2"
  | tcpPort _ => "tcp-port"
  | udpPort _ => "udp-port"
  | localSubnet _ => "local-subnet"
  | remoteSubnet _ => "remote-subnet"
  | interface _ => "network-interface"

/-- Whether a kind has filters on IPv4 layers alone. -/
def isIPv4Only : Kind → Bool
  | localAreaNetwork | ikev2 | tcpPort _ | udpPort _ | peerName _ => true
  | _ => false

/-- Whether a kind has filters for an action. -/
def supports : Kind → Action → Bool
  | allTraffic, action => action = .block
  | application _, _ | peerName _, _ | hostName _, _ | addresses _, _ | localSubnet _, _
  | remoteSubnet _, _ => true
  | _, action => action = .allow

/-- Whether a kind takes a pair of weights. -/
def isNameResolution : Kind → Bool
  | nameResolution _ => true
  | _ => false

/-- Whether a character may stand in the name of a host. -/
def isHostChar (c : Char) : Bool :=
  c.isAlphanum || c = '-' || c = '.' || c = '_'

/-- What is wrong with the name of a host. -/
def hostFault? (name : String) : Option ArgumentFault :=
  if name.isEmpty then some .emptyHostName
  else if 253 < name.utf8ByteSize then some .longHostName
  else if !name.toList.all isHostChar then some (.badHostName name)
  else none

/-- What is wrong with the values of a kind under a scope. -/
def fault? (scope : Scope) : Kind → Option ArgumentFault
  | addresses [] => some .emptyAddressSet
  | addresses list => (list.find? (!scope.admits ·)).map (.addressOutside · scope)
  | nameResolution list => (list.find? (!scope.admits ·)).map (.resolverOutside · scope)
  | localSubnet network | remoteSubnet network =>
    if scope.admits network.address then none else some (.subnetOutside network scope)
  | tcpPort port | udpPort port => if port = 0 then some .portZero else none
  | application path => if path.isEmpty then some .emptyPath else none
  | peerName name | hostName name => hostFault? name
  | allTraffic | loopback | localAreaNetwork | ikev2 | interface _ => none

end Kind

/-- One statement of a policy. -/
structure Directive where
  action : Action
  scope : Scope
  kind : Kind
  weight : WeightHint
  deriving DecidableEq, Repr

namespace Directive

/-- The error for a directive that no filters can stand for. -/
def unsupported (kind : Kind) (action : Action) (fault : UnsupportedFault) : PolicyError :=
  .unsupportedDirective kind.name action.name fault

/-- The directive of a kind in a context, or why there is none; `call` is what the error names as
the call that asked for it. -/
def make (call : String) (context : Context) (kind : Kind) : Except PolicyError Directive :=
  if !kind.supports context.action then .error (unsupported kind context.action .noMapping)
  else if kind.isIPv4Only && !context.scope.includes .v4 then
    .error (unsupported kind context.action .ipv4Only)
  else match kind.fault? context.scope with
    | some fault => .error (.invalidArgument call fault)
    | none => .ok ⟨context.action, context.scope, kind, context.weight⟩

end Directive

end TrafficPolicy
