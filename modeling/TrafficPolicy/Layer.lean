import TrafficPolicy.Scope

/-!
# Layers

A `Layer` is a point of the network stack at which packets of one family are classified. Rules for a
scope go to the connect and accept layers of its families, rules for ports to the layers of
`Layer.forPorts`.
-/

namespace TrafficPolicy

/-- A point of classification. -/
inductive Layer where
  | connectV4
  | acceptV4
  | connectV6
  | acceptV6
  | establishedV4
  deriving DecidableEq, Repr

namespace Layer

/-- The name of a layer. -/
def name : Layer → String
  | connectV4 => "ConnectV4"
  | acceptV4 => "AcceptV4"
  | connectV6 => "ConnectV6"
  | acceptV6 => "AcceptV6"
  | establishedV4 => "EstablishedV4"

/-- How a layer is called in the display names of filters. -/
def label : Layer → String
  | connectV4 => "IPv4 outbound"
  | acceptV4 => "IPv4 inbound"
  | connectV6 => "IPv6 outbound"
  | acceptV6 => "IPv6 inbound"
  | establishedV4 => "IPv4 established"

/-- The place of a layer in the order of layers. -/
def rank : Layer → Nat
  | connectV4 => 0
  | acceptV4 => 1
  | connectV6 => 2
  | acceptV6 => 3
  | establishedV4 => 4

/-- The family of the packets that a layer sees. -/
def family : Layer → Family
  | connectV4 | acceptV4 | establishedV4 => .v4
  | connectV6 | acceptV6 => .v6

/-- The connect and accept layers of a family. -/
def ofFamily : Family → List Layer
  | .v4 => [connectV4, acceptV4]
  | .v6 => [connectV6, acceptV6]

/-- The connect and accept layers of both families. -/
def all : List Layer :=
  ofFamily .v4 ++ ofFamily .v6

/-- The connect and accept layers that a scope takes in. -/
def inScope (scope : Scope) : List Layer :=
  all.filter fun layer => scope.includes layer.family

/-- The layers that rules for ports go to. -/
def forPorts : List Layer :=
  [acceptV4, establishedV4]

theorem family_of_mem_ofFamily {layer : Layer} {family : Family} (h : layer ∈ ofFamily family) :
    layer.family = family := by
  cases family <;> simp [ofFamily] at h <;> rcases h with rfl | rfl <;> rfl

theorem mem_inScope_iff {layer : Layer} {scope : Scope} :
    layer ∈ inScope scope ↔ layer ≠ establishedV4 ∧ scope.includes layer.family = true := by
  cases layer <;> cases scope <;> decide

end Layer

end TrafficPolicy
