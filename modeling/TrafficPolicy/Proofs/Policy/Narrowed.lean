import TrafficPolicy.Proofs.Policy.FanOut

/-!
# One family of a directive

A directive under both families is two directives in one.  `Directive.narrowed` is the one for a
family: it has that family's scope, and of the addresses that the directive lists only those of
the family.  It makes the filters that the directive has on the layers of the family, in their
order (`Directive.Expands.narrowed`), so what is said of one family has no influence on the other.

A family that the directive has nothing to say of (`Directive.reaches`) has no filters, but for
those that deny name resolution (`Directive.Expands.unreached`).
-/

namespace TrafficPolicy

/-- The scope that takes in one family. -/
def Family.scope : Family → Scope
  | .v4 => .v4
  | .v6 => .v6

/-- The filters on the layers of a family. -/
def Filter.ofFamily (family : Family) (filters : List Filter) : List Filter :=
  filters.filter (·.layer.family = family)

/-- The addresses of a family. -/
def Address.ofFamily (family : Family) (addresses : List Address) : List Address :=
  addresses.filter (·.family = family)

/-- The kind with only those of its addresses that are of the family. -/
def Kind.narrowed (family : Family) : Kind → Kind
  | .addresses list => .addresses (Address.ofFamily family list)
  | .nameResolution servers => .nameResolution (Address.ofFamily family servers)
  | kind => kind

/-- Whether a kind has something to say of a family.  No server stands for the default server,
which is of the family IPv4. -/
def Kind.reaches (resolver : Resolver) (family : Family) : Kind → Bool
  | .addresses list => list.any (·.family = family)
  | .hostName name => (resolver.known name).any (·.family = family)
  | .nameResolution servers => (effectiveServers servers).any (·.family = family)
  | .localSubnet network | .remoteSubnet network => network.family = family
  | kind => !(kind.isIPv4Only && family = .v6)

/-- The directive for one family alone. -/
def Directive.narrowed (family : Family) (directive : Directive) : Directive :=
  ⟨directive.action, family.scope, directive.kind.narrowed family, directive.weight⟩

/-! ## Scopes and layers -/

theorem Family.admits_scope (family : Family) (address : Address) :
    family.scope.admits address = decide (address.family = family) := by
  rw [Scope.admits]
  cases family <;> cases address.family <;> rfl

theorem Layer.filter_inScope (family : Family) :
    (inScope .both).filter (·.family = family) = inScope family.scope := by
  cases family <;> rfl

theorem Layer.filter_ofFamily (family other : Family) :
    (ofFamily other).filter (·.family = family) =
      if other = family then ofFamily other else [] := by
  cases family <;> cases other <;> rfl

namespace Address

variable {family : Family} {list : List Address}

theorem ofFamily_ne_nil (present : list.any (·.family = family) = true) :
    ofFamily family list ≠ [] := by
  obtain ⟨address, member, is⟩ := List.any_eq_true.mp present
  exact List.ne_nil_of_mem (List.mem_filter.mpr ⟨member, is⟩)

theorem ofFamily_eq_nil (absent : list.any (·.family = family) = false) :
    ofFamily family list = [] :=
  List.filter_eq_nil_iff.mpr (List.any_eq_false.mp absent)

theorem filter_admits_both (list : List Address) : list.filter Scope.both.admits = list :=
  List.filter_eq_self.mpr fun _ _ => rfl

theorem filter_admits (family : Family) (list : List Address) :
    list.filter family.scope.admits = ofFamily family list :=
  List.filter_congr fun address _ => family.admits_scope address

theorem admits_of_mem_ofFamily {address : Address} (member : address ∈ ofFamily family list) :
    family.scope.admits address = true :=
  (family.admits_scope address).trans (List.mem_filter.mp member).2

end Address

/-! ## Rules -/

namespace Rules

variable {action : Action} {weight : UInt8} {conditions : List Condition} {what : String}

theorem ofFamily_map (family : Family) (layers : List Layer) :
    Filter.ofFamily family (layers.map (filter action weight conditions what)) =
      (layers.filter (·.family = family)).map (filter action weight conditions what) :=
  List.filter_map

theorem ofFamily_inScope (family : Family) :
    Filter.ofFamily family ((Layer.inScope .both).map (filter action weight conditions what)) =
      (Layer.inScope family.scope).map (filter action weight conditions what) := by
  rw [ofFamily_map, Layer.filter_inScope]

theorem ofFamily_layers (family other : Family) :
    Filter.ofFamily family ((Layer.ofFamily other).map (filter action weight conditions what)) =
      if other = family then (Layer.ofFamily other).map (filter action weight conditions what)
      else [] := by
  rw [ofFamily_map, Layer.filter_ofFamily]
  split <;> rfl

theorem ofFamily_subnet (action : Action) (field : Field) (weight : UInt8) (network : Network)
    (family : Family) :
    Filter.ofFamily family (subnet action field weight network) =
      if network.family = family then subnet action field weight network else [] :=
  ofFamily_layers family network.family

theorem ofFamily_addresses (action : Action) (weight : UInt8) (family : Family)
    (list : List Address) :
    Filter.ofFamily family (addresses action weight list) =
      addresses action weight (Address.ofFamily family list) := by
  induction list with
  | nil => rfl
  | cons first rest ih =>
    have parts : Filter.ofFamily family (addresses action weight (first :: rest)) =
        Filter.ofFamily family (address action weight first) ++
          Filter.ofFamily family (addresses action weight rest) :=
      List.filter_append _ _
    rw [parts, ih, address, ofFamily_layers]
    by_cases is : first.family = family
    · have kept : Address.ofFamily family (first :: rest) =
          first :: Address.ofFamily family rest := List.filter_cons_of_pos (decide_eq_true is)
      rw [if_pos is, kept]
      rfl
    · have dropped : Address.ofFamily family (first :: rest) = Address.ofFamily family rest :=
        List.filter_cons_of_neg (mt of_decide_eq_true is)
      rw [if_neg is, dropped]
      rfl

/-- Allowed servers of another family have no filters on the layers of a family, and those of the
family do not depend on the others. -/
theorem ofFamily_allowNames (weight : UInt8) (servers : List Address) (family other : Family) :
    Filter.ofFamily family (allowNames weight servers other) =
      allowNames weight (Address.ofFamily family servers) other := by
  by_cases same : other = family
  · subst same
    have again : allowNames weight (Address.ofFamily other servers) other =
        allowNames weight servers other := by
      simp only [allowNames, Address.ofFamily, List.filter_filter, Bool.and_self]
    rw [again, allowNames_eq]
    split
    · exact (ofFamily_layers other other).trans (if_pos rfl)
    · rfl
  · have absent : (Address.ofFamily family servers).any (·.family = other) = false := by
      refine List.any_eq_false.mpr fun server member is => same ?_
      exact (of_decide_eq_true is).symm.trans (of_decide_eq_true (List.mem_filter.mp member).2)
    rw [allowNames_eq, allowNames_eq, absent]
    split
    · exact (ofFamily_layers family other).trans (if_neg same)
    · rfl

theorem ofFamily_restricted (deny allow : UInt8) (servers : List Address) (family : Family) :
    Filter.ofFamily family
        (denyNames .both deny ++ (allowNames allow servers .v4 ++ allowNames allow servers .v6)) =
      denyNames family.scope deny ++ (allowNames allow (Address.ofFamily family servers) .v4 ++
        allowNames allow (Address.ofFamily family servers) .v6) := by
  have denied : Filter.ofFamily family (denyNames .both deny) = denyNames family.scope deny :=
    ofFamily_inScope family
  rw [← denied, ← ofFamily_allowNames, ← ofFamily_allowNames]
  exact (List.filter_append _ _).trans (congrArg _ (List.filter_append _ _))

/-- The servers that are meant can be narrowed before or after the default for none is put in, if
any of them is of the family. -/
theorem effectiveResolvers_ofFamily {family : Family} {servers : List Address}
    (present : (effectiveServers servers).any (·.family = family) = true) :
    effectiveResolvers family.scope (Address.ofFamily family servers) =
      .ok (Address.ofFamily family (effectiveServers servers)) := by
  cases servers with
  | nil =>
    cases family with
    | v4 => rfl
    | v6 => cases present
  | cons server rest =>
    have named : effectiveServers (server :: rest) = server :: rest := rfl
    rw [named] at present ⊢
    rw [effectiveResolvers, List.isEmpty_eq_false_iff.mpr (Address.ofFamily_ne_nil present)]
    rfl

end Rules

/-! ## Directives -/

namespace Kind

variable {resolver : Resolver} {kind : Kind} {family : Family}

theorem supports_narrowed (kind : Kind) (family : Family) (action : Action) :
    (kind.narrowed family).supports action = kind.supports action := by
  cases kind <;> rfl

theorem isIPv4Only_narrowed (kind : Kind) (family : Family) :
    (kind.narrowed family).isIPv4Only = kind.isIPv4Only := by
  cases kind <;> rfl

theorem fault?_narrowed {scope : Scope} (fault : kind.fault? scope = none)
    (reaches : kind.reaches resolver family = true) :
    (kind.narrowed family).fault? family.scope = none := by
  have admitted : ∀ list : List Address,
      (Address.ofFamily family list).find? (!family.scope.admits ·) = none := by
    intro list
    refine List.find?_eq_none.mpr fun address member => ?_
    rw [Address.admits_of_mem_ofFamily member]
    exact Bool.false_ne_true
  cases kind with
  | addresses list =>
    rw [narrowed, fault?, admitted, Option.map_none]
    exact Address.ofFamily_ne_nil reaches
  | nameResolution servers => rw [narrowed, fault?, admitted, Option.map_none]
  | localSubnet network | remoteSubnet network =>
    exact if_pos ((family.admits_scope network.address).trans reaches)
  | _ => exact fault

theorem not_names_of_only (only : kind.isIPv4Only = true) : kind.isNameResolution = false := by
  cases kind with
  | nameResolution => cases only
  | _ => rfl

theorem reaches_of_only (only : kind.isIPv4Only = true) :
    kind.reaches resolver family = decide (family = .v4) := by
  cases kind with
  | localAreaNetwork | ikev2 | tcpPort | udpPort | peerName => cases family <;> rfl
  | _ => cases only

theorem eq_v4_of_reaches (only : kind.isIPv4Only = true)
    (reaches : kind.reaches resolver family = true) : family = .v4 :=
  of_decide_eq_true ((reaches_of_only only).symm.trans reaches)

end Kind

namespace Directive

variable {resolver : Resolver} {directive : Directive} {assigned : Assigned}
  {filters : List Filter} {family : Family}

theorem Accepted.narrowed (accepted : directive.Accepted)
    (reaches : directive.kind.reaches resolver family = true) :
    (directive.narrowed family).Accepted := by
  obtain ⟨supports, _, fault⟩ := accepted_iff.mp accepted
  refine accepted_iff.mpr ⟨?_, ?_, Kind.fault?_narrowed fault reaches⟩
  · exact (directive.kind.supports_narrowed family directive.action).trans supports
  · change ((directive.kind.narrowed family).isIPv4Only && !family.scope.includes .v4) = false
    rw [Kind.isIPv4Only_narrowed]
    cases only : directive.kind.isIPv4Only with
    | false => rfl
    | true =>
      rw [Kind.eq_v4_of_reaches only reaches]
      rfl

/-- The filters of kinds for IPv4 alone do not depend on the scope. -/
theorem Expands.narrowed_of_only (expands : Expands resolver assigned directive filters)
    (only : directive.kind.isIPv4Only = true) :
    Expands resolver assigned (directive.narrowed .v4) filters := by
  cases expands with
  | localAreaNetwork _ hint => exact .localAreaNetwork .v4 hint
  | peerName action _ hint name => exact .peerName action .v4 hint name
  | ikev2 _ hint => exact .ikev2 .v4 hint
  | tcpPort _ hint port => exact .tcpPort .v4 hint port
  | udpPort _ hint port => exact .udpPort .v4 hint port
  | _ => cases only

theorem ofFamily_of_only (accepted : directive.Accepted)
    (only : directive.kind.isIPv4Only = true)
    (expands : Expands resolver assigned directive filters) :
    Filter.ofFamily family filters = if family = .v4 then filters else [] := by
  have reaches : directive.kind.reaches resolver .v4 = true :=
    (Kind.reaches_of_only only).trans rfl
  have onV4 : ∀ filter ∈ filters, filter.layer.family = .v4 := by
    intro filter member
    have suits := suits_expand (accepted.narrowed reaches)
      (expand_eq_ok.mpr (expands.narrowed_of_only only)) filter member
    have included : Scope.v4.includes filter.layer.family = true := suits.scope
    cases family : filter.layer.family with
    | v4 => rfl
    | v6 => rw [family] at included; cases included
  split
  next v4 => exact List.filter_eq_self.mpr fun filter member => by simp [onV4 filter member, v4]
  next v6 =>
    refine List.filter_eq_nil_iff.mpr fun filter member is => v6 ?_
    exact (of_decide_eq_true is).symm.trans (onV4 filter member)

/-- The filters on the layers of a family are what the directive for that family expands to. -/
theorem Expands.narrowed (accepted : directive.Accepted) (both : directive.scope = .both)
    (reaches : directive.kind.reaches resolver family = true)
    (expands : Expands resolver assigned directive filters) :
    Expands resolver assigned (directive.narrowed family) (Filter.ofFamily family filters) := by
  cases only : directive.kind.isIPv4Only with
  | true =>
    have v4 := Kind.eq_v4_of_reaches only reaches
    rw [ofFamily_of_only accepted only expands, if_pos v4, v4]
    exact expands.narrowed_of_only only
  | false =>
    cases expands with
    | localAreaNetwork | peerName | ikev2 | tcpPort | udpPort => cases only
    | allTraffic _ hint =>
      cases both
      exact Rules.ofFamily_inScope family ▸ .allTraffic family.scope hint
    | loopback _ hint =>
      cases both
      exact Rules.ofFamily_inScope family ▸ .loopback family.scope hint
    | interface _ hint index =>
      cases both
      exact Rules.ofFamily_inScope family ▸ .interface family.scope hint index
    | application action _ hint found =>
      cases both
      exact Rules.ofFamily_inScope family ▸ .application action family.scope hint found
    | addresses action _ hint list =>
      rw [Rules.ofFamily_addresses]
      exact .addresses action family.scope hint _
    | @hostName action _ hint name _ admitted looked inside =>
      cases both
      obtain ⟨_, rfl⟩ := hostAddresses_eq_ok.mp inside
      rw [Kind.reaches, Resolver.known_of_ok looked] at reaches
      rw [Rules.ofFamily_addresses, Address.filter_admits_both]
      exact .hostName action family.scope hint looked (hostAddresses_eq_ok.mpr
        ⟨Address.ofFamily_ne_nil reaches, (Address.filter_admits family _).symm⟩)
    | localSubnet action _ hint network =>
      rw [Rules.ofFamily_subnet, if_pos (of_decide_eq_true reaches)]
      exact .localSubnet action family.scope hint network
    | remoteSubnet action _ hint network =>
      rw [Rules.ofFamily_subnet, if_pos (of_decide_eq_true reaches)]
      exact .remoteSubnet action family.scope hint network
    | nameResolution _ hint denied below found =>
      cases both
      obtain ⟨rfl, _⟩ := Rules.of_effectiveResolvers (accepted.admits rfl) found
      rw [Rules.ofFamily_restricted]
      exact .nameResolution family.scope hint denied below
        (Rules.effectiveResolvers_ofFamily reaches)

/-- A family that the directive has nothing to say of has no filters, but for those that deny name
resolution. -/
theorem Expands.unreached (accepted : directive.Accepted) (both : directive.scope = .both)
    (unreached : directive.kind.reaches resolver family = false)
    (expands : Expands resolver assigned directive filters) :
    if directive.kind.isNameResolution then
      ∃ deny, assigned.deny = some deny ∧
        Filter.ofFamily family filters = Rules.denyNames family.scope deny
    else Filter.ofFamily family filters = [] := by
  cases only : directive.kind.isIPv4Only with
  | true =>
    have v6 : family ≠ .v4 := by
      rw [Kind.reaches_of_only only] at unreached
      exact of_decide_eq_false unreached
    rw [Kind.not_names_of_only only, if_neg Bool.false_ne_true]
    exact (ofFamily_of_only accepted only expands).trans (if_neg v6)
  | false =>
    cases expands with
    | localAreaNetwork | peerName | ikev2 | tcpPort | udpPort => cases only
    | allTraffic | loopback | application | interface => cases unreached
    | addresses action =>
      have absent := Address.ofFamily_eq_nil unreached
      exact (Rules.ofFamily_addresses ..).trans (congrArg (Rules.addresses action _) absent)
    | hostName action _ hint looked inside =>
      cases both
      obtain ⟨_, rfl⟩ := hostAddresses_eq_ok.mp inside
      rw [Kind.reaches, Resolver.known_of_ok looked] at unreached
      have absent := Address.ofFamily_eq_nil unreached
      rw [Address.filter_admits_both]
      exact (Rules.ofFamily_addresses ..).trans (congrArg (Rules.addresses action _) absent)
    | localSubnet _ _ _ network | remoteSubnet _ _ _ network =>
      exact (Rules.ofFamily_subnet ..).trans (if_neg (of_decide_eq_false unreached))
    | nameResolution _ hint denied below found =>
      cases both
      obtain ⟨rfl, _⟩ := Rules.of_effectiveResolvers (accepted.admits rfl) found
      refine ⟨_, denied, ?_⟩
      rw [Rules.ofFamily_restricted, Address.ofFamily_eq_nil unreached]
      exact List.append_nil _

/-- IPv4 and IPv6 do not interfere.  Of a directive for both families, the filters on the layers
of one family are the filters of the directive narrowed to it, all of them and in their order, and
the narrowed directive is accepted too.  Where the directive has nothing to say of the family, there
are no filters, and for name resolution those that deny it. -/
theorem families_apart (resolver : Resolver) (directive : Directive) (assigned : Assigned)
    (filters : List Filter) (accepted : directive.Accepted) (both : directive.scope = .both)
    (expanded : (directive.expand resolver assigned).result = .ok filters) (family : Family) :
    (directive.kind.reaches resolver family = true →
      (directive.narrowed family).Accepted ∧
        ((directive.narrowed family).expand resolver assigned).result =
          .ok (Filter.ofFamily family filters)) ∧
      (directive.kind.reaches resolver family = false →
        if directive.kind.isNameResolution then
          ∃ deny, assigned.deny = some deny ∧
            Filter.ofFamily family filters = Rules.denyNames family.scope deny
        else Filter.ofFamily family filters = []) := by
  have expands := expand_eq_ok.mp expanded
  exact ⟨fun reaches => ⟨accepted.narrowed reaches,
      expand_eq_ok.mpr (expands.narrowed accepted both reaches)⟩,
    fun unreached => expands.unreached accepted both unreached⟩

/-- Of two servers the one for IPv6 is allowed there as if it were the only one; without it there
are only the deny filters. -/
theorem families_apart_servers :
    let resolver := ({} : LookupTable).resolver
    let via (servers : List Address) : Directive :=
      ⟨.allow, .both, .nameResolution servers, .implicit⟩
    (∃ filters,
      ((via [.v4 0x01010101, .v6 1]).expand resolver ⟨4, some 3⟩).result = .ok filters ∧
      (expand resolver ⟨.allow, .v6, .nameResolution [.v6 1], .implicit⟩ ⟨4, some 3⟩).result =
        .ok (Filter.ofFamily .v6 filters)) ∧
      ∃ filters,
        ((via [.v4 0x01010101]).expand resolver ⟨4, some 3⟩).result = .ok filters ∧
        Filter.ofFamily .v6 filters = Rules.denyNames .v6 3 := by
  intro resolver via
  have mixed : (via [.v4 0x01010101, .v6 1]).Accepted := accepted_iff.mpr (by decide)
  have single : (via [.v4 0x01010101]).Accepted := accepted_iff.mpr (by decide)
  have reached := (families_apart resolver _ ⟨4, some 3⟩ _ mixed rfl rfl .v6).1 rfl
  obtain ⟨deny, is, denied⟩ := (families_apart resolver _ ⟨4, some 3⟩ _ single rfl rfl .v6).2 rfl
  cases is
  exact ⟨⟨_, rfl, reached.2⟩, ⟨_, rfl, denied⟩⟩

end Directive

end TrafficPolicy
