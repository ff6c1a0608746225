import TrafficPolicy.Packet
import TrafficPolicy.Policy

/-!
# What directives cover

`Directive.covers` says of which packets a directive speaks, and `Directive.verdict` what it says
of them, without mention of filters.  Of a program the last directive that covers a packet has the
say (`Directive.said?`).
-/

namespace TrafficPolicy

namespace Packet

/-- The packet opens a connection, or is the first of an incoming one. -/
def isFirst (packet : Packet) : Bool :=
  packet.layer ≠ .establishedV4

/-- The packet opens a connection of a family. -/
def isFirstOf (family : Family) (packet : Packet) : Bool :=
  packet.isFirst && packet.layer.family = family

/-- The packet opens a connection that a scope takes in. -/
def isFirstIn (scope : Scope) (packet : Packet) : Bool :=
  packet.isFirst && scope.includes packet.layer.family

/-- The packet is of a question to a name server, or of its answer. -/
def isNameResolution (packet : Packet) : Bool :=
  packet.remotePort = 53 && (packet.protocol = 6 || packet.protocol = 17)

end Packet

namespace Address

/-- The address lies between two IPv4 addresses. -/
def between (first last : BitVec 32) : Address → Bool
  | v4 bits => first ≤ bits && bits ≤ last
  | v6 _ => false

/-- The address is of a network in reach without a router: private, multicast, link-local or
broadcast. -/
def isLan (address : Address) : Bool :=
  address.between 0xC0A80000 0xC0A8FFFF || address.between 0xAC100000 0xAC1FFFFF ||
    address.between 0x0A000000 0x0AFFFFFF || address.between 0xE0000000 0xEFFFFFFF ||
    address.between 0xA9FE0000 0xA9FEFFFF || address.between 0xFFFFFFFF 0xFFFFFFFF

/-- The address is one that tunnels give out. -/
def isTunnel (address : Address) : Bool :=
  address.between 0x0A000000 0x0AFFFFFF

end Address

/-- The name servers that a directive names, or the one that is meant by none. -/
def effectiveServers (servers : List Address) : List Address :=
  if servers.isEmpty then [.ofOctets 10 255 0 1] else servers

/-- Whether a directive of a kind speaks of a packet. -/
def Kind.covers (resolver : Resolver) (scope : Scope) (kind : Kind) (packet : Packet) : Bool :=
  match kind with
  | .allTraffic => packet.isFirstIn scope
  | .loopback => packet.isFirstIn scope && packet.flags &&& 1 = 1
  | .localAreaNetwork => packet.isFirstOf .v4 && packet.remoteAddress.isLan
  | .nameResolution _ => packet.isFirstIn scope && packet.isNameResolution
  | .application path =>
    packet.isFirstIn scope &&
      match resolver.appId path with
      | .ok id => packet.app = some id
      | .error _ => false
  | .peerName name =>
    packet.layer = .connectV4 &&
      packet.peerName.any fun peer => Text.asciiLowercase peer = Text.asciiLowercase name
  | .hostName name =>
    packet.isFirstOf packet.remoteAddress.family && scope.admits packet.remoteAddress &&
      match resolver.hostAddresses name with
      | .ok found => found.contains packet.remoteAddress
      | .error _ => false
  | .addresses list =>
    packet.isFirstOf packet.remoteAddress.family && list.contains packet.remoteAddress
  | .ikev2 => packet.isFirstOf .v4 && (packet.localAddress.isTunnel || packet.protocol = 4)
  | .tcpPort port =>
    (packet.layer = .acceptV4 || packet.layer = .establishedV4) && packet.protocol = 6 &&
      packet.remotePort = port
  | .udpPort port =>
    (packet.layer = .acceptV4 || packet.layer = .establishedV4) && packet.protocol = 17 &&
      packet.remotePort = port
  | .localSubnet network =>
    packet.isFirstOf network.family && network.contains packet.localAddress
  | .remoteSubnet network =>
    packet.isFirstOf network.family && network.contains packet.remoteAddress
  | .interface index => packet.isFirstIn scope && packet.interface = index

namespace Directive

/-- Whether a directive speaks of a packet. -/
def covers (resolver : Resolver) (directive : Directive) (packet : Packet) : Bool :=
  directive.kind.covers resolver directive.scope packet

/-- What a directive says of a packet that it covers. -/
def verdict (directive : Directive) (packet : Packet) : Action :=
  match directive.kind with
  | .nameResolution servers =>
    if (effectiveServers servers).contains packet.remoteAddress &&
        packet.remoteAddress.family = packet.layer.family then .allow
    else .block
  | _ => directive.action

/-- What the last directive of a program that covers a packet says of it. -/
def said? (resolver : Resolver) (packet : Packet) (program : List Directive) : Option Action :=
  (program.reverse.find? (·.covers resolver packet)).map (·.verdict packet)

variable {resolver : Resolver} {packet : Packet}

/-- But for name resolution, a directive says its action. -/
theorem verdict_eq_action {directive : Directive}
    (other : directive.kind.isNameResolution = false) (packet : Packet) :
    directive.verdict packet = directive.action := by
  rw [verdict]
  cases kind : directive.kind with
  | nameResolution servers =>
    rw [kind] at other
    cases other
  | _ => rfl

theorem said?_append (earlier later : List Directive) :
    said? resolver packet (earlier ++ later) =
      (said? resolver packet later).or (said? resolver packet earlier) := by
  rw [said?, List.reverse_append, List.find?_append, Option.map_or]
  rfl

theorem said?_singleton (directive : Directive) :
    said? resolver packet [directive] =
      if directive.covers resolver packet then some (directive.verdict packet) else none := by
  rw [said?, List.reverse_singleton, List.find?_singleton]
  split <;> rfl

/-- Where all directives say the same it is said, if any of them covers the packet. -/
theorem said?_uniform {program : List Directive} {action : Action}
    (uniform : ∀ directive ∈ program, directive.verdict packet = action) :
    said? resolver packet program =
      if program.any (·.covers resolver packet) then some action else none := by
  rw [said?]
  cases found : program.reverse.find? (·.covers resolver packet) with
  | none =>
    have silent : program.any (·.covers resolver packet) = false := by
      rw [← List.any_reverse, List.any_eq_false]
      exact List.find?_eq_none.mp found
    rw [silent]
    rfl
  | some directive =>
    have member := List.mem_reverse.mp (List.mem_of_find?_eq_some found)
    rw [if_pos (List.any_eq_true.mpr ⟨directive, member, List.find?_some found⟩)]
    exact congrArg some (uniform directive member)

end Directive

end TrafficPolicy
