import TrafficPolicy.Proofs.Policy.Conditions
import TrafficPolicy.Proofs.Policy.FanOut
import TrafficPolicy.Proofs.Verdict.Matching

/-!
# Filters that some packet meets

A condition looks at one field of a packet (`Condition.holds_congr`), and one whose value is in
order is met once the field is written so (`Condition.holds_write`).  Written one after the other,
the conditions of a filter give a packet that the filter applies to (`Condition.allMet_meeting`).

So it is enough that the conditions are in order and that their addresses are of the family of the
layer, which holds of all filters of a directive (`Directive.filters_live`).
-/

namespace TrafficPolicy

namespace Packet

/-- Both addresses of a packet are of the family that its layer sees. -/
structure OfOneFamily (packet : Packet) : Prop where
  remote : packet.remoteAddress.family = packet.layer.family
  localEnd : packet.localAddress.family = packet.layer.family

/-- A packet of a layer with nothing in it. -/
def blank (layer : Layer) : Packet where
  layer := layer
  remoteAddress := .unspecified layer.family
  localAddress := .unspecified layer.family
  remotePort := 0
  protocol := 0

/-- Two packets have the same in a field. -/
def AgreeOn (packet packet' : Packet) : Field → Prop
  | .remotePort => packet.remotePort = packet'.remotePort
  | .protocol => packet.protocol = packet'.protocol
  | .remoteAddress => packet.remoteAddress = packet'.remoteAddress
  | .localAddress => packet.localAddress = packet'.localAddress
  | .flags => packet.flags = packet'.flags
  | .appId => packet.app = packet'.app
  | .peerName => packet.peerName = packet'.peerName
  | .localInterface => packet.interface = packet'.interface

/-- The packet with a value written to a field, if it is a value that can stand there. -/
def write (packet : Packet) : Field → Value → Packet
  | .remotePort, .u16 port => { packet with remotePort := port }
  | .protocol, .u8 protocol => { packet with protocol := protocol }
  | .remoteAddress, .address address => { packet with remoteAddress := address }
  | .localAddress, .address address => { packet with localAddress := address }
  | .flags, .u32 flags => { packet with flags := flags }
  | .appId, .app id => { packet with app := some id }
  | .peerName, .text name => { packet with peerName := some name }
  | .localInterface, .u64 index => { packet with interface := index }
  | _, _ => packet

variable {packet : Packet} {field other : Field} {value : Value}

@[simp] theorem layer_write : (packet.write field value).layer = packet.layer := by
  unfold write
  split <;> rfl

/-- What is written to one field leaves the others as they are. -/
theorem agreeOn_write (ne : field ≠ other) : (packet.write field value).AgreeOn packet other := by
  unfold write
  split <;> cases other <;> simp_all [AgreeOn]

theorem OfOneFamily.write (one : packet.OfOneFamily)
    (suits : ∀ family ∈ value.family?, family = packet.layer.family) :
    (packet.write field value).OfOneFamily := by
  obtain ⟨remote, localEnd⟩ := one
  unfold Packet.write
  split
  case h_3 address => exact ⟨suits address.family rfl, localEnd⟩
  case h_4 address => exact ⟨remote, suits address.family rfl⟩
  all_goals exact ⟨remote, localEnd⟩

end Packet

theorem Network.contains_address (network : Network) : network.contains network.address = true := by
  cases network <;> simp [contains, address]

namespace Condition

/-- The value that meets a condition: the one it compares with, or for a network an address of
it. -/
def wanted (condition : Condition) : Value :=
  match condition.value with
  | .network network => .address network.address
  | value => value

variable {condition : Condition} {packet packet' : Packet}

theorem family?_wanted (condition : Condition) :
    condition.wanted.family? = condition.value.family? := by
  obtain ⟨field, op, value⟩ := condition
  cases value <;> rfl

/-- A condition looks at its own field alone. -/
theorem holds_congr (agree : packet.AgreeOn packet' condition.field) :
    condition.holds packet = condition.holds packet' := by
  obtain ⟨field, op, value⟩ := condition
  cases field <;> cases op <;> cases value <;> simp_all [Packet.AgreeOn, holds]

/-- A condition in order is met by what it wants in its field. -/
theorem holds_write (typed : condition.Typed) (packet : Packet) :
    condition.holds (packet.write condition.field condition.wanted) = true := by
  obtain ⟨field, op, value⟩ := condition
  cases op <;> cases field <;> cases value <;> cases typed <;>
    simp [holds, wanted, Packet.write, Network.contains_address]

/-- Only a condition in order is met. -/
theorem typed_of_holds (holds : condition.holds packet = true) : condition.Typed := by
  unfold Condition.holds at holds
  split at holds
  case h_11 => cases holds
  all_goals simp_all [Typed, MatchOp.kind?, Value.kind]

/-- The conditions in order are those that can be met: for any other the matcher has no comparison,
and it says no to every packet. -/
theorem exists_holds_iff_typed :
    (∃ packet, condition.holds packet = true) ↔ condition.Typed :=
  ⟨fun ⟨_, holds⟩ => typed_of_holds holds, fun typed => ⟨_, holds_write typed (.blank .connectV4)⟩⟩

end Condition

/-! ## Packets that meet a list of conditions -/

/-- A packet of a layer that meets some conditions.  Of several on one field the first one has the
say. -/
def Packet.meeting (layer : Layer) : List Condition → Packet
  | [] => blank layer
  | condition :: rest => (meeting layer rest).write condition.field condition.wanted

section Meeting

variable {layer : Layer} {conditions : List Condition}

theorem Packet.layer_meeting : (meeting layer conditions).layer = layer := by
  induction conditions with
  | nil => rfl
  | cons condition rest ih => rw [meeting, layer_write, ih]

theorem Packet.ofOneFamily_meeting
    (suit : ∀ condition ∈ conditions, ∀ family ∈ condition.value.family?, family = layer.family) :
    (meeting layer conditions).OfOneFamily := by
  induction conditions with
  | nil => exact ⟨Address.family_unspecified _, Address.family_unspecified _⟩
  | cons condition rest ih =>
    obtain ⟨first, others⟩ := List.forall_mem_cons.mp suit
    refine (ih others).write fun family is => ?_
    rw [layer_meeting]
    exact first family (condition.family?_wanted ▸ is)

/-- Where the conditions are in order, each field that they are about has one that is met. -/
theorem Condition.allMet_meeting (typed : ∀ condition ∈ conditions, condition.Typed) :
    allMet conditions (.meeting layer conditions) = true := by
  induction conditions with
  | nil => rfl
  | cons first rest ih =>
    obtain ⟨fits, others⟩ := List.forall_mem_cons.mp typed
    have head : first.holds (.meeting layer (first :: rest)) = true := holds_write fits _
    rw [allMet_eq_true_iff]
    intro condition member
    rw [metOn_eq_true_iff]
    by_cases same : condition.field = first.field
    · exact ⟨first, List.mem_cons_self, same.symm, head⟩
    · have later : condition ∈ rest := by
        rcases List.mem_cons.mp member with rfl | later
        · exact absurd rfl same
        · exact later
      -- What the rest has written to another field stands.
      obtain ⟨other, inside, is, holds⟩ :=
        metOn_eq_true_iff.mp (allMet_eq_true_iff.mp (ih others) condition later)
      have apart : first.field ≠ other.field := fun eq => same (is.symm.trans eq.symm)
      refine ⟨other, List.mem_cons_of_mem _ inside, is, ?_⟩
      rw [Packet.meeting, holds_congr (Packet.agreeOn_write apart), holds]

end Meeting

/-! ## Filters -/

namespace Filter

variable {filter : Filter} {scope : Scope}

/-- A filter that suits a scope applies to the packet that meets its conditions, whatever the order
in which they are written to it. -/
theorem applies_meeting (typed : filter.Typed) (suits : filter.Suits scope)
    {conditions : List Condition}
    (same : ∀ condition, condition ∈ conditions ↔ condition ∈ filter.conditions) :
    (Packet.meeting filter.layer conditions).OfOneFamily ∧
      filter.applies (.meeting filter.layer conditions) = true := by
  constructor
  · exact Packet.ofOneFamily_meeting fun condition member =>
      suits.family condition ((same condition).mp member)
  · have met : Condition.allMet conditions (.meeting filter.layer conditions) = true :=
      Condition.allMet_meeting fun condition member =>
        typed condition ((same condition).mp member)
    rw [Condition.allMet_congr same] at met
    rw [applies, Packet.layer_meeting, accepts, met, decide_eq_true rfl, Bool.and_self]

end Filter

/-- No filter of a directive that was accepted is dead, and no condition of it.  Each condition is a
comparison that the matcher knows, met by a packet that the filter applies to; and where there are
no conditions there is such a packet too.  Its addresses are of the family of the filter's layer. -/
theorem Directive.filters_live (resolver : Resolver) (directive : Directive) (assigned : Assigned)
    (filters : List Filter) (accepted : directive.Accepted)
    (expanded : (directive.expand resolver assigned).result = .ok filters) :
    ∀ filter ∈ filters,
      (∀ condition ∈ filter.conditions, condition.Typed ∧
        ∃ packet : Packet, packet.OfOneFamily ∧ filter.applies packet = true ∧
          condition.holds packet = true) ∧
      ∃ packet : Packet, packet.OfOneFamily ∧ filter.applies packet = true := by
  intro filter member
  have typed := typed_expand expanded filter member
  have suits := suits_expand accepted expanded filter member
  refine ⟨fun condition inside => ⟨typed condition inside, ?_⟩, ?_⟩
  · -- The list may have the condition a second time, in front, where it has the say.
    have same : ∀ other, other ∈ condition :: filter.conditions ↔ other ∈ filter.conditions := by
      simp [inside]
    obtain ⟨one, applies⟩ := Filter.applies_meeting typed suits same
    exact ⟨_, one, applies, Condition.holds_write (typed condition inside) _⟩
  · exact ⟨_, Filter.applies_meeting typed suits fun _ => Iff.rfl⟩

/-- The filter that allows names to be asked of an IPv6 server, of a directive with a server of each
family. -/
theorem Directive.filters_live_server :
    ∃ (directive : Directive) (filters : List Filter) (filter : Filter),
      directive = ⟨.allow, .both, .nameResolution [.v4 0x01010101, .v6 1], .implicit⟩ ∧
      directive.Accepted ∧
      (directive.expand ({} : LookupTable).resolver ⟨4, some 3⟩).result = .ok filters ∧
      filter ∈ filters ∧ filter.layer = .connectV6 ∧
      filter.conditions = Rules.nameConditions ++ [.eq .remoteAddress (.address (.v6 1))] ∧
      (∀ condition ∈ filter.conditions, condition.Typed ∧
        ∃ packet : Packet, packet.OfOneFamily ∧ filter.applies packet = true ∧
          condition.holds packet = true) ∧
      ∃ packet : Packet, packet.OfOneFamily ∧ filter.applies packet = true := by
  have accepted : Directive.Accepted
      ⟨.allow, .both, .nameResolution [.v4 0x01010101, .v6 1], .implicit⟩ :=
    Directive.accepted_iff.mpr (by decide)
  have live := filters_live ({} : LookupTable).resolver _ ⟨4, some 3⟩ _ accepted rfl
  refine ⟨_, _, _, rfl, accepted, rfl, List.mem_of_getElem? (i := 6) rfl, rfl, rfl, ?_⟩
  exact live _ (List.mem_of_getElem? (i := 6) rfl)

end TrafficPolicy
