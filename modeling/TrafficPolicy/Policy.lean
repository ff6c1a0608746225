import TrafficPolicy.Resolver
import TrafficPolicy.Rules
import TrafficPolicy.Weight

/-!
# Compiled policies

`Policy.compile` gives the directives of a program their weights and expands each into filters. All
lookups happen here, before any engine is involved; they are made in program order and end with the
first directive that cannot be expanded.
-/

namespace TrafficPolicy

/-- A directive with the filters that stand for it. -/
structure CompiledDirective where
  kind : String
  action : Action
  weight : Assigned
  filters : List Filter
  deriving DecidableEq, Repr

/-- A program in compiled form. -/
structure Policy where
  directives : List CompiledDirective := []
  deriving DecidableEq, Repr

namespace Policy

/-- All filters of a policy, in order. -/
def filters (policy : Policy) : List Filter :=
  policy.directives.flatMap (·.filters)

/-- The number of filters of a policy. -/
def filterCount (policy : Policy) : Nat :=
  policy.filters.length

/-- Whether a policy has no filter. -/
def isEmpty (policy : Policy) : Bool :=
  policy.filterCount = 0

end Policy

namespace Directive

/-- The addresses of a host that a scope admits. -/
def hostAddresses (scope : Scope) (name : String) (addresses : List Address) :
    Except PolicyError (List Address) :=
  match addresses.filter scope.admits with
  | [] => .error (.resolutionFailed name (.nothingInScope scope))
  | admitted => .ok admitted

/-- The filters of a directive. -/
def expand (resolver : Resolver) (directive : Directive) (weight : Assigned) :
    Looked (List Filter) :=
  match directive.kind, directive.action with
  | .allTraffic, .block => return Rules.blockAll directive.scope weight.weight
  | .loopback, .allow => return Rules.allowLoopback directive.scope weight.weight
  | .localAreaNetwork, .allow => return Rules.allowLan weight.weight
  | .nameResolution resolvers, .allow =>
    match weight.deny with
    | none => .ofExcept (.error (.invalidPolicy .noDenyWeight))
    | some deny => .ofExcept (Rules.nameResolution directive.scope deny weight.weight resolvers)
  | .application path, action => do
    let id ← Looked.appId resolver path
    return Rules.application action directive.scope weight.weight id
  | .peerName name, action => return [Rules.peerName action weight.weight name]
  | .hostName name, action => do
    let found ← Looked.hostAddresses resolver name
    let admitted ← Looked.ofExcept (hostAddresses directive.scope name found)
    return Rules.addresses action weight.weight admitted
  | .addresses addresses, action => return Rules.addresses action weight.weight addresses
  | .ikev2, .allow => return Rules.allowIkev2 weight.weight
  | .tcpPort port, .allow => return Rules.allowPort Rules.tcp port weight.weight
  | .udpPort port, .allow => return Rules.allowPort Rules.udp port weight.weight
  | .localSubnet network, action => return Rules.subnet action .localAddress weight.weight network
  | .remoteSubnet network, action =>
    return Rules.subnet action .remoteAddress weight.weight network
  | .interface index, .allow => return Rules.allowInterface directive.scope weight.weight index
  | .allTraffic, .allow | .loopback, .block | .localAreaNetwork, .block
  | .nameResolution _, .block | .ikev2, .block | .tcpPort _, .block | .udpPort _, .block
  | .interface _, .block =>
    .ofExcept (.error (unsupported directive.kind directive.action .noMapping))

/-- A directive in compiled form. -/
def compile (resolver : Resolver) (directive : Directive) (weight : Assigned) :
    Looked CompiledDirective := do
  return ⟨directive.kind.name, directive.action, weight, ← directive.expand resolver weight⟩

end Directive

namespace Policy

/-- The compiled forms of directives that have their weights, in order. -/
def compileAll (resolver : Resolver) : List (Directive × Assigned) → Looked (List CompiledDirective)
  | [] => return []
  | (directive, weight) :: rest => do
    let first ← directive.compile resolver weight
    let others ← compileAll resolver rest
    return first :: others

/-- The compiled form of a program. -/
def compile (resolver : Resolver) (program : List Directive) : Looked Policy := do
  let weights ← Looked.ofExcept (Assigned.ofProgram program)
  return ⟨← compileAll resolver (program.zip weights)⟩

end Policy

end TrafficPolicy
