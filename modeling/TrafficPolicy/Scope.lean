import TrafficPolicy.Address

/-!
# Actions and scopes

An `Action` is what a rule does with the traffic it matches, and a `Scope` the protocol versions it
applies to.
-/

namespace TrafficPolicy

/-- What a matching rule does with the traffic. -/
inductive Action where
  | allow
  | block
  deriving DecidableEq, Repr

/-- The name of an action. -/
def Action.name : Action → String
  | .allow => "allow"
  | .block => "block"

/-- The protocol versions that a rule applies to. -/
inductive Scope where
  | v4
  | v6
  | both
  deriving DecidableEq, Repr

namespace Scope

/-- The name of a scope. -/
def name : Scope → String
  | v4 => "v4"
  | v6 => "v6"
  | both => "both"

/-- How a scope is named in messages. -/
def label : Scope → String
  | v4 => "V4"
  | v6 => "V6"
  | both => "Both"

/-- Whether a scope takes in a family. -/
def includes : Scope → Family → Bool
  | v4, .v4 => true
  | v6, .v6 => true
  | both, _ => true
  | _, _ => false

/-- Whether an address may appear under a scope. -/
def admits (scope : Scope) (address : Address) : Bool :=
  scope.includes address.family

end Scope

end TrafficPolicy
