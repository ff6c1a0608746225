import TrafficPolicy.AppId
import TrafficPolicy.Layer
import TrafficPolicy.Network

/-!
# Filters

A `Filter` is one primitive rule of the classification engine: on its layer it decides, with its
action, the packets that meet its conditions. A `Condition` compares one field of a packet with a
value.
-/

namespace TrafficPolicy

/-- The fields of a packet that conditions look at. -/
inductive Field where
  | remotePort
  | protocol
  | remoteAddress
  | localAddress
  | flags
  | appId
  | peerName
  | localInterface
  deriving DecidableEq, Repr

namespace Field

/-- The name of a field. -/
def name : Field → String
  | remotePort => "RemotePort"
  | protocol => "Protocol"
  | remoteAddress => "RemoteAddress"
  | localAddress => "LocalAddress"
  | flags => "Flags"
  | appId => "AppId"
  | peerName => "PeerName"
  | localInterface => "LocalInterface"

/-- The place of a field in the order of fields. -/
def rank : Field → Nat
  | remotePort => 0
  | protocol => 1
  | remoteAddress => 2
  | localAddress => 3
  | flags => 4
  | appId => 5
  | peerName => 6
  | localInterface => 7

end Field

/-- How a field is compared with a value. -/
inductive MatchOp where
  | equal
  | flagsAllSet
  | inNetwork
  deriving DecidableEq, Repr

/-- The name of a comparison. -/
def MatchOp.name : MatchOp → String
  | .equal => "Equal"
  | .flagsAllSet => "FlagsAllSet"
  | .inNetwork => "InPrefix"

/-- A value that a field is compared with. -/
inductive Value where
  | u8 (value : UInt8)
  | u16 (value : UInt16)
  | u32 (value : UInt32)
  | u64 (value : UInt64)
  | address (value : Address)
  | network (value : Network)
  | app (value : AppId)
  | text (value : String)
  deriving DecidableEq, Repr

/-- A test of one field. -/
structure Condition where
  field : Field
  op : MatchOp
  value : Value
  deriving DecidableEq, Repr

namespace Condition

/-- The field equals the value. -/
def eq (field : Field) (value : Value) : Condition :=
  ⟨field, .equal, value⟩

/-- The field, an address, lies in the network. -/
def inNetwork (field : Field) (network : Network) : Condition :=
  ⟨field, .inNetwork, .network network⟩

/-- All the given flags are set. -/
def flags (flags : UInt32) : Condition :=
  ⟨.flags, .flagsAllSet, .u32 flags⟩

end Condition

/-- A primitive rule. -/
structure Filter where
  layer : Layer
  action : Action
  weight : UInt8
  conditions : List Condition
  name : String
  deriving DecidableEq, Repr

end TrafficPolicy
