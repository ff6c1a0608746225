import Mathlib
import TrafficPolicy.Proofs.Verdict.Coverage
import TrafficPolicy.Rules

/-!
# The filters of rules

A rule comes as a list of filters with one action and one weight, most often one filter a layer.
`Rules.Stands` says of which packets such a list speaks; there is one lemma about it a rule.
-/

namespace TrafficPolicy

/-- An IPv4 network is what lies between its first and its last address. -/
theorem Network.contains_eq_between {bits first last : BitVec 32} {length : Fin 33}
    (start : first.toNat = bits.toNat / 2 ^ (32 - length.val) * 2 ^ (32 - length.val))
    (stop : last.toNat = first.toNat + (2 ^ (32 - length.val) - 1)) (address : Address) :
    (Network.v4 bits length).contains address = address.between first last := by
  cases address with
  | v6 other => rfl
  | v4 other =>
    have positive : 0 < 2 ^ (32 - length.val) := Nat.two_pow_pos _
    rw [Bool.eq_iff_iff, Network.contains, Address.between, decide_eq_true_eq, Bool.and_eq_true,
      decide_eq_true_eq, decide_eq_true_eq, BitVec.le_def, BitVec.le_def, ← BitVec.toNat_inj,
      BitVec.toNat_ushiftRight, BitVec.toNat_ushiftRight, Nat.shiftRight_eq_div_pow,
      Nat.shiftRight_eq_div_pow, stop, start]
    generalize 2 ^ (32 - length.val) = size at *
    rw [eq_comm, Nat.div_eq_iff positive, Nat.add_sub_assoc positive]

theorem Text.asciiLowercase_asciiLowercase (text : String) :
    asciiLowercase (asciiLowercase text) = asciiLowercase text := by
  have twice : Char.toLower ∘ Char.toLower = Char.toLower :=
    funext Char.toLower_toLower_eq_toLower
  rw [asciiLowercase, asciiLowercase, String.map_map, twice]

namespace Rules

/-! ## Layers -/

theorem contains_inScope (packet : Packet) (scope : Scope) :
    (Layer.inScope scope).contains packet.layer = packet.isFirstIn scope := by
  rw [Bool.eq_iff_iff, List.contains_iff_mem, Layer.mem_inScope_iff, Packet.isFirstIn,
    Packet.isFirst, Bool.and_eq_true, decide_eq_true_eq]

theorem contains_ofFamily (packet : Packet) (family : Family) :
    (Layer.ofFamily family).contains packet.layer = packet.isFirstOf family := by
  rw [Packet.isFirstOf, Packet.isFirst]
  cases packet.layer <;> cases family <;> decide

theorem contains_forPorts (packet : Packet) :
    Layer.forPorts.contains packet.layer =
      (packet.layer = .acceptV4 || packet.layer = .establishedV4) := by
  cases packet.layer <;> decide

/-! ## Lists of filters -/

/-- Filters that stand for one rule, and what they apply to. -/
structure Stands (action : Action) (weight : UInt8) (covered : Packet → Bool)
    (filters : List Filter) : Prop where
  uniform : ∀ filter ∈ filters, filter.action = action ∧ filter.weight = weight
  any : ∀ packet, filters.any (·.applies packet) = covered packet

section Lists

variable {action : Action} {weight : UInt8}

theorem applies_filter (conditions : List Condition) (what : String) (layer : Layer)
    (packet : Packet) :
    (filter action weight conditions what layer).applies packet =
      (packet.layer = layer && Condition.allMet conditions packet) := by
  rw [show decide (packet.layer = layer) = decide (layer = packet.layer) from
    decide_eq_decide.mpr eq_comm]
  rfl

/-- One filter a layer speaks where the layers are and the conditions are met. -/
theorem Stands.map (layers : List Layer) (conditions : List Condition) (what : String) :
    Stands action weight
      (fun packet => layers.contains packet.layer && Condition.allMet conditions packet)
      (layers.map (filter action weight conditions what)) where
  uniform filter member := by
    obtain ⟨layer, _, rfl⟩ := List.mem_map.mp member
    exact ⟨rfl, rfl⟩
  any packet := by
    induction layers with
    | nil => rfl
    | cons layer rest ih =>
      rw [List.map_cons, List.any_cons, ih, applies_filter, List.contains_cons,
        Bool.and_or_distrib_right, Bool.beq_eq_decide_eq]

theorem allMet_singleton (condition : Condition) (packet : Packet) :
    Condition.allMet [condition] packet = condition.holds packet := by
  simp [Condition.allMet]

theorem Stands.congr {covered covered' : Packet → Bool} {filters : List Filter}
    (stands : Stands action weight covered filters)
    (same : ∀ packet, covered packet = covered' packet) :
    Stands action weight covered' filters :=
  ⟨stands.uniform, fun packet => (stands.any packet).trans (same packet)⟩

/-- One filter a layer, with one condition. -/
theorem Stands.single (layers : List Layer) (condition : Condition) (what : String) :
    Stands action weight
      (fun packet => layers.contains packet.layer && condition.holds packet)
      (layers.map (filter action weight [condition] what)) :=
  (Stands.map layers [condition] what).congr fun packet => by rw [allMet_singleton]

theorem Stands.append {covered covered' : Packet → Bool} {filters filters' : List Filter}
    (first : Stands action weight covered filters)
    (second : Stands action weight covered' filters') :
    Stands action weight (fun packet => covered packet || covered' packet)
      (filters ++ filters') where
  uniform filter member := by
    rcases List.mem_append.mp member with inside | inside
    · exact first.uniform filter inside
    · exact second.uniform filter inside
  any packet := by
    rw [List.any_append, first.any, second.any]

theorem Stands.flatMap {α : Type} {covered : α → Packet → Bool} {filters : α → List Filter}
    (each : ∀ item, Stands action weight (covered item) (filters item)) (items : List α) :
    Stands action weight (fun packet => items.any (covered · packet))
      (items.flatMap filters) where
  uniform filter member := by
    obtain ⟨item, _, inside⟩ := List.mem_flatMap.mp member
    exact (each item).uniform filter inside
  any packet := by
    rw [List.any_flatMap]
    exact congrArg items.any (funext fun item => (each item).any packet)

end Lists

/-! ## Rules one by one -/

theorem stands_blockAll (scope : Scope) (weight : UInt8) :
    Stands .block weight (·.isFirstIn scope) (blockAll scope weight) :=
  (Stands.map _ [] _).congr fun packet => by
    rw [contains_inScope]
    exact Bool.and_true _

theorem stands_allowLoopback (scope : Scope) (weight : UInt8) :
    Stands .allow weight (fun packet => packet.isFirstIn scope && packet.flags &&& 1 = 1)
      (allowLoopback scope weight) :=
  (Stands.single _ (.flags loopbackFlag) _).congr fun packet => by
    rw [contains_inScope]
    rfl

theorem stands_subnet (action : Action) (field : Field) (weight : UInt8) (network : Network) :
    Stands action weight (fun packet => packet.isFirstOf network.family &&
        (Condition.inNetwork field network).holds packet)
      (subnet action field weight network) :=
  (Stands.single _ (.inNetwork field network) _).congr fun packet => by rw [contains_ofFamily]

theorem any_contains_lanNetworks (address : Address) :
    lanNetworks.any (·.contains address) = address.isLan := by
  simp only [lanNetworks, List.any_cons, List.any_nil, Bool.or_false, Address.isLan, Bool.or_assoc]
  congr 1
  · exact Network.contains_eq_between (by decide) (by decide) address
  congr 1
  · exact Network.contains_eq_between (by decide) (by decide) address
  congr 1
  · exact Network.contains_eq_between (by decide) (by decide) address
  congr 1
  · exact Network.contains_eq_between (by decide) (by decide) address
  congr 1
  · exact Network.contains_eq_between (by decide) (by decide) address
  · exact Network.contains_eq_between (by decide) (by decide) address

theorem stands_allowLan (weight : UInt8) :
    Stands .allow weight (fun packet => packet.isFirstOf .v4 && packet.remoteAddress.isLan)
      (allowLan weight) :=
  (Stands.flatMap (stands_subnet .allow .remoteAddress weight) lanNetworks).congr fun packet => by
    have families : (lanNetworks.any fun network => packet.isFirstOf network.family &&
          (Condition.inNetwork .remoteAddress network).holds packet) =
        lanNetworks.any fun network => packet.isFirstOf .v4 &&
          network.contains packet.remoteAddress := rfl
    rw [families, ← List.and_any_distrib_left, any_contains_lanNetworks]

theorem stands_application (action : Action) (scope : Scope) (weight : UInt8) (id : AppId) :
    Stands action weight (fun packet => packet.isFirstIn scope && packet.app = some id)
      (application action scope weight id) :=
  (Stands.single _ (.eq .appId (.app id)) _).congr fun packet => by
    rw [contains_inScope]
    rfl

theorem stands_peerName (action : Action) (weight : UInt8) (name : String) :
    Stands action weight (fun packet => packet.layer = .connectV4 &&
        packet.peerName.any fun peer => Text.asciiLowercase peer = Text.asciiLowercase name)
      [peerName action weight name] where
  uniform filter member := by
    rw [List.mem_singleton.mp member]
    exact ⟨rfl, rfl⟩
  any packet := by
    rw [List.any_cons, List.any_nil, Bool.or_false, peerName, applies_filter, allMet_singleton]
    simp only [Condition.eq, Condition.holds, Text.asciiLowercase_asciiLowercase]

theorem stands_address (action : Action) (weight : UInt8) (address : Address) :
    Stands action weight (fun packet =>
        packet.isFirstOf packet.remoteAddress.family && packet.remoteAddress = address)
      (Rules.address action weight address) :=
  (Stands.single _ (.eq .remoteAddress (.address address)) _).congr fun packet => by
    rw [contains_ofFamily]
    by_cases same : packet.remoteAddress = address
    · rw [same]
      simp [Condition.holds, Condition.eq, same]
    · simp [Condition.holds, Condition.eq, same]

theorem stands_addresses (action : Action) (weight : UInt8) (list : List Address) :
    Stands action weight (fun packet =>
        packet.isFirstOf packet.remoteAddress.family && list.contains packet.remoteAddress)
      (addresses action weight list) :=
  (Stands.flatMap (stands_address action weight) list).congr fun packet => by
    rw [← List.and_any_distrib_left, List.contains_eq_any_beq]
    simp only [Bool.beq_eq_decide_eq]

theorem stands_allowIkev2 (weight : UInt8) :
    Stands .allow weight (fun packet =>
        packet.isFirstOf .v4 && (packet.localAddress.isTunnel || packet.protocol = 4))
      (allowIkev2 weight) :=
  ((stands_subnet .allow .localAddress weight tunnelNetwork).append
    (Stands.single _ (.eq .protocol (.u8 ipInIp)) _)).congr fun packet => by
      have tunnel : (Condition.inNetwork .localAddress tunnelNetwork).holds packet =
          packet.localAddress.isTunnel :=
        Network.contains_eq_between (by decide) (by decide) packet.localAddress
      rw [contains_ofFamily, tunnel, Bool.and_or_distrib_left]
      rfl

theorem stands_allowPort (protocol : UInt8) (port : UInt16) (weight : UInt8) :
    Stands .allow weight (fun packet =>
        (packet.layer = .acceptV4 || packet.layer = .establishedV4) &&
          packet.protocol = protocol && packet.remotePort = port)
      (allowPort protocol port weight) :=
  (Stands.map _ [.eq .protocol (.u8 protocol), .eq .remotePort (.u16 port)] _).congr
    fun packet => by
      rw [contains_forPorts, Bool.and_assoc]
      simp [Condition.allMet, Condition.eq, Condition.holds]

theorem stands_allowInterface (scope : Scope) (weight : UInt8) (index : UInt64) :
    Stands .allow weight (fun packet => packet.isFirstIn scope && packet.interface = index)
      (allowInterface scope weight index) :=
  (Stands.single _ (.eq .localInterface (.u64 index)) _).congr fun packet => by
    rw [contains_inScope]
    rfl

end Rules

end TrafficPolicy
