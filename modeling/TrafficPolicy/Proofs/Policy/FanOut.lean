import TrafficPolicy.Proofs.Verdict.NameServers
import TrafficPolicy.Proofs.Policy.Collected
import TrafficPolicy.Proofs.Policy.Expands
import TrafficPolicy.Proofs.Policy.Weights

/-!
# How directives fan out

A directive becomes a number of filters on a number of layers.  `Directive.slots` says which,
without mention of how filters are made: kinds that are about no addresses go to the layers of
their scope, kinds about addresses to the layers of each address.  `Filter.Suits` is what scope and
family demand of a filter.

All directives that were accepted fan out so (`Directive.map_slot_expand`,
`Directive.suits_expand`), and no part of a compiled policy is without filters
(`Policy.fansOut_of_accepted`).
-/

namespace TrafficPolicy

/-- Where a filter stands: its layer, and what it does there with which weight. -/
structure Slot where
  layer : Layer
  action : Action
  weight : UInt8
  deriving DecidableEq, Repr

/-- The slot of a filter. -/
def Filter.slot (filter : Filter) : Slot :=
  ⟨filter.layer, filter.action, filter.weight⟩

/-- The family of the addresses that a value is about, if it is about addresses. -/
def Value.family? : Value → Option Family
  | .address value => some value.family
  | .network value => some value.family
  | _ => none

/-- The families of a scope. -/
def Scope.families : Scope → List Family
  | .v4 => [.v4]
  | .v6 => [.v6]
  | .both => [.v4, .v6]

/-- The addresses that a resolver knows for a host. -/
def Resolver.known (resolver : Resolver) (name : String) : List Address :=
  match resolver.hostAddresses name with
  | .ok found => found
  | .error _ => []

theorem Resolver.known_of_ok {resolver : Resolver} {name : String} {found : List Address}
    (looked : resolver.hostAddresses name = .ok found) : resolver.known name = found := by
  rw [known, looked]

namespace Directive

/-- The layers of the filters that act as a directive says, one entry for each filter. -/
def ownLayers (resolver : Resolver) (directive : Directive) : List Layer :=
  match directive.kind with
  | .allTraffic | .loopback | .application _ | .interface _ =>
    directive.scope.families.flatMap Layer.ofFamily
  | .localAreaNetwork => (List.replicate 6 [.connectV4, .acceptV4]).flatten
  | .ikev2 => (List.replicate 2 [.connectV4, .acceptV4]).flatten
  | .tcpPort _ | .udpPort _ => [.acceptV4, .establishedV4]
  | .peerName _ => [.connectV4]
  | .addresses list => list.flatMap (Layer.ofFamily ·.family)
  | .hostName name =>
    ((resolver.known name).filter directive.scope.admits).flatMap (Layer.ofFamily ·.family)
  | .localSubnet network | .remoteSubnet network => Layer.ofFamily network.family
  | .nameResolution servers =>
    ([.v4, .v6].filter fun family => (effectiveServers servers).any (·.family = family)).flatMap
      Layer.ofFamily

/-- The layers of the filters that deny name resolution. -/
def denyLayers (directive : Directive) : List Layer :=
  if directive.kind.isNameResolution then directive.scope.families.flatMap Layer.ofFamily else []

/-- The slots of a directive's filters, in order. -/
def slots (resolver : Resolver) (assigned : Assigned) (directive : Directive) : List Slot :=
  assigned.deny.toList.flatMap (fun deny => directive.denyLayers.map (⟨·, .block, deny⟩)) ++
    (directive.ownLayers resolver).map (⟨·, directive.action, assigned.weight⟩)

end Directive

/-- A filter suits a scope: its layer is in scope, and where its conditions are about addresses,
these are of the family that the layer sees. -/
structure Filter.Suits (scope : Scope) (filter : Filter) : Prop where
  scope : scope.includes filter.layer.family = true
  family : ∀ condition ∈ filter.conditions, ∀ family ∈ condition.value.family?,
    family = filter.layer.family

theorem Layer.inScope_eq (scope : Scope) :
    inScope scope = scope.families.flatMap ofFamily := by
  cases scope <;> rfl

theorem Layer.inScope_ne_nil (scope : Scope) : inScope scope ≠ [] := by
  cases scope <;> exact List.cons_ne_nil _ _

theorem Layer.ofFamily_ne_nil (family : Family) : ofFamily family ≠ [] := by
  cases family <;> exact List.cons_ne_nil _ _

/-! ## Rules -/

namespace Rules

variable {action : Action} {weight : UInt8} {conditions : List Condition} {what : String}

theorem slot_map (layers : List Layer) :
    (layers.map (filter action weight conditions what)).map Filter.slot =
      layers.map (⟨·, action, weight⟩) := by
  rw [List.map_map]
  rfl

theorem slot_addresses (action : Action) (weight : UInt8) (list : List Address) :
    (addresses action weight list).map Filter.slot =
      (list.flatMap (Layer.ofFamily ·.family)).map (⟨·, action, weight⟩) := by
  rw [addresses, List.map_flatMap, List.map_flatMap]
  simp only [address, slot_map]

theorem addresses_ne_nil {list : List Address} (named : list ≠ []) :
    addresses action weight list ≠ [] := by
  intro empty
  obtain ⟨address, member⟩ := List.exists_mem_of_ne_nil list named
  have made := List.flatMap_eq_nil_iff.mp empty address member
  exact Layer.ofFamily_ne_nil address.family (List.map_eq_nil_iff.mp made)

/-- Servers of a family get the layers of the family, if there are any. -/
theorem allowNames_eq (weight : UInt8) (servers : List Address) (family : Family) :
    allowNames weight servers family =
      if servers.any (·.family = family) then
        (Layer.ofFamily family).map
          (filter .allow weight
            (nameConditions ++ (servers.filter (·.family = family)).map fun server =>
              .eq .remoteAddress (.address server)) "DNS")
      else [] := by
  rw [allowNames]
  cases present : servers.any (·.family = family) with
  | false =>
    have empty : servers.filter (·.family = family) = [] :=
      List.filter_eq_nil_iff.mpr (List.any_eq_false.mp present)
    rw [empty]
    rfl
  | true =>
    obtain ⟨server, member, is⟩ := List.any_eq_true.mp present
    have kept : server ∈ servers.filter (·.family = family) := List.mem_filter.mpr ⟨member, is⟩
    split
    next empty => rw [empty] at kept; cases kept
    next => rfl

theorem slot_allowNames (weight : UInt8) (servers : List Address) (family : Family) :
    (allowNames weight servers family).map Filter.slot =
      if servers.any (·.family = family) then
        (Layer.ofFamily family).map (⟨·, .allow, weight⟩)
      else [] := by
  rw [allowNames_eq]
  split
  next => exact slot_map _
  next => rfl

theorem slot_allowed (weight : UInt8) (servers : List Address) :
    (allowNames weight servers .v4 ++ allowNames weight servers .v6).map Filter.slot =
      (([.v4, .v6].filter fun family => servers.any (·.family = family)).flatMap
        Layer.ofFamily).map (⟨·, .allow, weight⟩) := by
  rw [List.map_append, slot_allowNames, slot_allowNames, List.filter_cons, List.filter_cons,
    List.filter_nil]
  split <;> split <;> simp

theorem suits_map {scope : Scope} {layers : List Layer}
    (suits : ∀ layer ∈ layers, scope.includes layer.family = true ∧
      ∀ condition ∈ conditions, ∀ family ∈ condition.value.family?, family = layer.family) :
    ∀ made ∈ layers.map (filter action weight conditions what), made.Suits scope := by
  intro made member
  obtain ⟨layer, inside, rfl⟩ := List.mem_map.mp member
  exact ⟨(suits layer inside).1, (suits layer inside).2⟩

/-- Conditions without addresses suit all layers in scope. -/
theorem suits_inScope (scope : Scope)
    (free : ∀ condition ∈ conditions, condition.value.family? = none) :
    ∀ made ∈ (Layer.inScope scope).map (filter action weight conditions what),
      made.Suits scope := by
  refine suits_map fun layer member => ⟨(Layer.mem_inScope_iff.mp member).2, ?_⟩
  intro condition inside family is
  rw [free condition inside] at is
  cases is

/-- Conditions about addresses of a family suit the layers of the family. -/
theorem suits_ofFamily {scope : Scope} {family : Family} (included : scope.includes family = true)
    (about : ∀ condition ∈ conditions, ∀ other ∈ condition.value.family?, other = family) :
    ∀ made ∈ (Layer.ofFamily family).map (filter action weight conditions what),
      made.Suits scope := by
  refine suits_map fun layer member => ?_
  rw [Layer.family_of_mem_ofFamily member]
  exact ⟨included, about⟩

theorem suits_subnet (action : Action) (field : Field) (weight : UInt8) {scope : Scope}
    {network : Network} (admitted : scope.admits network.address = true) :
    ∀ made ∈ subnet action field weight network, made.Suits scope :=
  suits_ofFamily admitted
    (List.forall_mem_singleton.mpr fun _ is => (Option.some.inj is).symm)

theorem suits_addresses (action : Action) (weight : UInt8) {scope : Scope} {list : List Address}
    (admitted : ∀ address ∈ list, scope.admits address = true) :
    ∀ made ∈ addresses action weight list, made.Suits scope := by
  intro made member
  obtain ⟨address, inside, among⟩ := List.mem_flatMap.mp member
  refine suits_ofFamily (admitted address inside) (List.forall_mem_singleton.mpr ?_) made among
  exact fun _ is => (Option.some.inj is).symm

theorem free_nameConditions : ∀ condition ∈ nameConditions, condition.value.family? = none := by
  decide

theorem suits_allowNames (weight : UInt8) {scope : Scope} {servers : List Address}
    (admitted : ∀ server ∈ servers, scope.admits server = true) (family : Family) :
    ∀ made ∈ allowNames weight servers family, made.Suits scope := by
  rw [allowNames_eq]
  split
  next present =>
    obtain ⟨server, member, is⟩ := List.any_eq_true.mp present
    have included : scope.includes family = true :=
      of_decide_eq_true is ▸ admitted server member
    refine suits_ofFamily included (List.forall_mem_append.mpr ⟨?_, ?_⟩)
    · intro condition inside other is
      rw [free_nameConditions condition inside] at is
      cases is
    · refine List.forall_mem_map.mpr fun server among other is => ?_
      rw [← Option.some.inj is]
      exact of_decide_eq_true (List.mem_filter.mp among).2
  next => exact nofun

end Rules

/-! ## Directives -/

namespace Directive

variable {resolver : Resolver} {directive : Directive} {assigned : Assigned}
  {filters : List Filter}

theorem slots_of_other (other : directive.kind.isNameResolution = false) :
    directive.slots resolver assigned =
      (directive.ownLayers resolver).map (⟨·, directive.action, assigned.weight⟩) := by
  rw [slots, denyLayers, other]
  cases assigned.deny <;> rfl

/-- The filters of a directive have its slots. -/
theorem map_slot_expand (accepted : directive.Accepted)
    (expanded : (directive.expand resolver assigned).result = .ok filters) :
    filters.map Filter.slot = directive.slots resolver assigned := by
  cases names : directive.kind.isNameResolution with
  | true =>
    cases expand_eq_ok.mp expanded with
    | @nameResolution scope _ deny servers effective denied below found =>
      obtain ⟨rfl, _⟩ := Rules.of_effectiveResolvers (accepted.admits rfl) found
      rw [List.map_append, Rules.slot_allowed, Rules.denyNames, Rules.slot_map, Layer.inScope_eq,
        slots, denied, denyLayers, names]
      exact congrArg (· ++ _) (List.append_nil _).symm
    | _ => cases names
  | false =>
    rw [slots_of_other names]
    cases expand_eq_ok.mp expanded with
    | nameResolution => cases names
    | allTraffic | loopback | application | interface =>
      rw [ownLayers, ← Layer.inScope_eq]
      exact Rules.slot_map _
    | localAreaNetwork => rfl
    | peerName => rfl
    | @hostName action _ _ _ _ admitted looked inside =>
      obtain ⟨_, rfl⟩ := hostAddresses_eq_ok.mp inside
      rw [Rules.slot_addresses]
      simp only [ownLayers, Resolver.known_of_ok looked]
    | addresses => exact Rules.slot_addresses _ _ _
    | ikev2 => rfl
    | tcpPort | udpPort => exact Rules.slot_map _
    | localSubnet | remoteSubnet => exact Rules.slot_map _

/-- A slot of a directive has its action and weight, but for those that deny name resolution. -/
theorem of_mem_slots {slot : Slot} (member : slot ∈ directive.slots resolver assigned) :
    (slot.action = directive.action ∧ slot.weight = assigned.weight) ∨
      (directive.kind.isNameResolution = true ∧ slot.action = .block ∧
        assigned.deny = some slot.weight) := by
  rcases List.mem_append.mp member with denying | own
  · obtain ⟨deny, is, inside⟩ := List.mem_flatMap.mp denying
    obtain ⟨layer, among, rfl⟩ := List.mem_map.mp inside
    rw [denyLayers, List.mem_ite_nil_right] at among
    exact Or.inr ⟨among.1, rfl, Option.mem_toList.mp is⟩
  · obtain ⟨layer, _, rfl⟩ := List.mem_map.mp own
    exact Or.inl ⟨rfl, rfl⟩

/-- The filters of a directive suit its scope. -/
theorem suits_expand (accepted : directive.Accepted)
    (expanded : (directive.expand resolver assigned).result = .ok filters) :
    ∀ filter ∈ filters, filter.Suits directive.scope := by
  cases expand_eq_ok.mp expanded with
  | allTraffic scope | loopback scope | application _ scope | interface scope =>
    exact Rules.suits_inScope scope (by simp [Condition.flags, Condition.eq, Value.family?])
  | localAreaNetwork =>
    have reach : ∀ network ∈ Rules.lanNetworks, network.address.family = .v4 := by decide
    intro filter member
    obtain ⟨network, inside, among⟩ := List.mem_flatMap.mp member
    refine Rules.suits_subnet _ _ _ ?_ filter among
    rw [Scope.admits, reach network inside]
    exact accepted.includes_v4 rfl
  | nameResolution scope _ denied below found =>
    obtain ⟨_, inside⟩ := Rules.of_effectiveResolvers (accepted.admits rfl) found
    exact List.forall_mem_append.mpr
      ⟨Rules.suits_inScope scope Rules.free_nameConditions, List.forall_mem_append.mpr
        ⟨Rules.suits_allowNames _ inside .v4, Rules.suits_allowNames _ inside .v6⟩⟩
  | peerName =>
    exact List.forall_mem_singleton.mpr
      ⟨accepted.includes_v4 rfl, List.forall_mem_singleton.mpr fun _ absent => by cases absent⟩
  | hostName action scope _ looked inside =>
    obtain ⟨_, rfl⟩ := hostAddresses_eq_ok.mp inside
    exact Rules.suits_addresses _ _ fun address member => (List.mem_filter.mp member).2
  | addresses => exact Rules.suits_addresses _ _ (accepted.admits_addresses rfl).2
  | ikev2 =>
    refine List.forall_mem_append.mpr
      ⟨Rules.suits_subnet _ _ _ (accepted.includes_v4 rfl), ?_⟩
    exact Rules.suits_ofFamily (accepted.includes_v4 rfl)
      (List.forall_mem_singleton.mpr fun _ absent => by cases absent)
  | tcpPort | udpPort =>
    have ports : ∀ layer ∈ Layer.forPorts, layer.family = .v4 := by decide
    refine Rules.suits_map fun layer member => ⟨?_, ?_⟩
    · rw [ports layer member]
      exact accepted.includes_v4 rfl
    · simp [Condition.eq, Value.family?]
  | localSubnet => exact Rules.suits_subnet _ _ _ (accepted.admits_network (Or.inl rfl))
  | remoteSubnet => exact Rules.suits_subnet _ _ _ (accepted.admits_network (Or.inr rfl))

/-- No directive comes to nothing. -/
theorem expand_ne_nil (accepted : directive.Accepted)
    (expanded : (directive.expand resolver assigned).result = .ok filters) : filters ≠ [] := by
  cases expand_eq_ok.mp expanded with
  | allTraffic scope | loopback scope | application _ scope | interface scope =>
    exact mt List.map_eq_nil_iff.mp (Layer.inScope_ne_nil scope)
  | nameResolution scope =>
    refine List.append_ne_nil_of_left_ne_nil ?_ _
    exact mt List.map_eq_nil_iff.mp (Layer.inScope_ne_nil scope)
  | hostName _ _ _ _ inside => exact Rules.addresses_ne_nil (hostAddresses_eq_ok.mp inside).1
  | addresses => exact Rules.addresses_ne_nil (accepted.admits_addresses rfl).1
  | localAreaNetwork | ikev2 | peerName | tcpPort | udpPort => exact List.cons_ne_nil _ _
  | localSubnet _ _ _ network | remoteSubnet _ _ _ network =>
    exact mt List.map_eq_nil_iff.mp (Layer.ofFamily_ne_nil network.family)

end Directive

namespace Policy

variable {resolver : Resolver}

theorem filters_ne_nil_of_mem {entries : List (Directive × Assigned)}
    (accepted : ∀ entry ∈ entries, entry.1.Accepted) {directives : List CompiledDirective}
    (compiled : (compileAll resolver entries).result = .ok directives) :
    ∀ directive ∈ directives, directive.filters ≠ [] := by
  induction entries generalizing directives with
  | nil =>
    cases compiled
    exact nofun
  | cons entry rest ih =>
    obtain ⟨first, others⟩ := List.forall_mem_cons.mp accepted
    obtain ⟨filters, later, expanded, following, rfl⟩ := compileAll_cons_eq_ok.mp compiled
    exact List.forall_mem_cons.mpr
      ⟨Directive.expand_ne_nil first expanded, ih others following⟩

/-- A directive that was accepted fans out, whatever its weights, to filters on the layers of its
scope, of its addresses or of its kind, with its action and weight.  For name resolution there are
deny filters besides, with the deny weight.  No filter is on a layer outside the scope, and none
is about an address or a network of another family than its layer.  A compiled policy has a
directive for each of its program, and none of them comes to nothing. -/
theorem fansOut_of_accepted (resolver : Resolver) :
    (∀ (directive : Directive) (assigned : Assigned) (filters : List Filter),
      directive.Accepted → (directive.expand resolver assigned).result = .ok filters →
        filters.map Filter.slot = directive.slots resolver assigned ∧
        (∀ filter ∈ filters,
          directive.scope.includes filter.layer.family = true ∧
          (∀ condition ∈ filter.conditions, ∀ family ∈ condition.value.family?,
            family = filter.layer.family) ∧
          ((filter.action = directive.action ∧ filter.weight = assigned.weight) ∨
            (directive.kind.isNameResolution = true ∧ filter.action = .block ∧
              assigned.deny = some filter.weight))) ∧
        filters ≠ []) ∧
      ∀ (program : List Directive) (policy : Policy), (∀ directive ∈ program, directive.Accepted) →
        (compile resolver program).result = .ok policy →
        policy.directives.length = program.length ∧
          ∀ compiled ∈ policy.directives, compiled.filters ≠ [] := by
  refine ⟨fun directive assigned filters accepted expanded => ?_,
    fun program policy accepted compiled => ?_⟩
  · have slots := Directive.map_slot_expand accepted expanded
    refine ⟨slots, fun filter member => ?_, Directive.expand_ne_nil accepted expanded⟩
    have suits := Directive.suits_expand accepted expanded filter member
    have place : filter.slot ∈ directive.slots resolver assigned :=
      slots ▸ List.mem_map_of_mem member
    exact ⟨suits.scope, suits.family, Directive.of_mem_slots place⟩
  · obtain ⟨weights, _, directives⟩ := compile_eq_ok.mp compiled
    exact ⟨length_compile compiled, filters_ne_nil_of_mem
      (fun entry member => accepted entry.1 (List.of_mem_zip member).1) directives⟩

/-- With a server of each family there are deny and allow filters on all layers of the scope, and
the program of that directive alone compiles. -/
theorem fansOut_server_of_each_family :
    ∃ (directive : Directive) (filters : List Filter) (policy : Policy),
      directive = ⟨.allow, .both, .nameResolution [.v4 0x01010101, .v6 1], .implicit⟩ ∧
      directive.Accepted ∧
      (directive.expand ({} : LookupTable).resolver ⟨4, some 3⟩).result = .ok filters ∧
      filters.map Filter.slot =
        [⟨.connectV4, .block, 3⟩, ⟨.acceptV4, .block, 3⟩, ⟨.connectV6, .block, 3⟩,
          ⟨.acceptV6, .block, 3⟩, ⟨.connectV4, .allow, 4⟩, ⟨.acceptV4, .allow, 4⟩,
          ⟨.connectV6, .allow, 4⟩, ⟨.acceptV6, .allow, 4⟩] ∧
      (∀ filter ∈ filters, ∀ condition ∈ filter.conditions,
        ∀ family ∈ condition.value.family?, family = filter.layer.family) ∧
      (compile ({} : LookupTable).resolver [directive]).result = .ok policy ∧
      policy.directives.length = 1 ∧ ∀ compiled ∈ policy.directives, compiled.filters ≠ [] := by
  have accepted : Directive.Accepted
      ⟨.allow, .both, .nameResolution [.v4 0x01010101, .v6 1], .implicit⟩ :=
    Directive.accepted_iff.mpr (by decide)
  obtain ⟨fansOut, filled⟩ := fansOut_of_accepted ({} : LookupTable).resolver
  obtain ⟨slots, suits, _⟩ := fansOut _ ⟨4, some 3⟩ _ accepted rfl
  exact ⟨_, _, _, rfl, accepted, rfl, slots, fun filter member => (suits filter member).2.1,
    rfl, filled [_] _ (List.forall_mem_singleton.mpr accepted) rfl⟩

end Policy

end TrafficPolicy
