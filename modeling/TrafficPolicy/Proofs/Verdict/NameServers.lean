import TrafficPolicy.Proofs.Verdict.Matching
import TrafficPolicy.Proofs.Verdict.Prevailing
import TrafficPolicy.Proofs.Verdict.RuleFilters

/-!
# The filters of name resolution

Name resolution is denied by filters of one weight and allowed again, with the servers of the
directive, by filters of a greater weight.  Together they decide as one rule would
(`Rules.decide_nameResolution`).
-/

namespace TrafficPolicy

namespace Rules

section Stands

variable {action : Action} {weight : UInt8} {covered : Packet → Bool} {filters : List Filter}

/-- Filters of one rule decide what they apply to. -/
theorem Stands.decide (stands : Stands action weight covered filters) (packet : Packet) :
    (Filter.prevailing? packet filters).map (·.action) =
      if covered packet then some action else none := by
  rw [Filter.prevailing?_uniform fun filter member => (stands.uniform filter member).1,
    stands.any]

/-- Where a rule covers a packet, one of its filters prevails. -/
theorem Stands.prevails (stands : Stands action weight covered filters)
    {packet : Packet} (covers : covered packet = true) :
    ∃ best, Filter.prevailing? packet filters = some best ∧
      best.action = action ∧ best.weight = weight := by
  have decides := stands.decide packet
  rw [if_pos covers, Option.map_eq_some_iff] at decides
  obtain ⟨best, prevails, is⟩ := decides
  exact ⟨best, prevails, is, (stands.uniform best (Filter.mem_of_prevailing? prevails).1).2⟩

theorem Stands.silent (stands : Stands action weight covered filters)
    {packet : Packet} (apart : covered packet = false) :
    Filter.prevailing? packet filters = none := by
  have decides := stands.decide packet
  rwa [apart, if_neg Bool.false_ne_true, Option.map_eq_none_iff] at decides

end Stands

/-! ## Conditions on several fields -/

section Conditions

variable (packet : Packet)

/-- Conditions on different fields are met one by one. -/
theorem allMet_append {first second : List Condition}
    (apart : ∀ condition ∈ first, ∀ other ∈ second, condition.field ≠ other.field) :
    Condition.allMet (first ++ second) packet =
      (Condition.allMet first packet && Condition.allMet second packet) := by
  have left : ∀ condition ∈ first, Condition.metOn (first ++ second) packet condition.field =
      Condition.metOn first packet condition.field := by
    intro condition member
    rw [Condition.metOn_append, Bool.or_eq_left_iff_imp, Condition.metOn_of_new]
    · exact nofun
    · exact fun other inside => (apart condition member other inside).symm
  have right : ∀ condition ∈ second, Condition.metOn (first ++ second) packet condition.field =
      Condition.metOn second packet condition.field := by
    intro condition member
    rw [Condition.metOn_append, Condition.metOn_of_new, Bool.false_or]
    exact fun other inside => apart other inside condition member
  rw [Bool.eq_iff_iff, Bool.and_eq_true]
  simp only [Condition.allMet_eq_true_iff, List.forall_mem_append]
  refine and_congr (forall₂_congr fun condition member => ?_)
    (forall₂_congr fun condition member => ?_)
  · rw [left condition member]
  · rw [right condition member]

theorem allMet_nameConditions :
    Condition.allMet nameConditions packet = packet.isNameResolution := by
  have port : ∀ condition ∈ [Condition.eq .remotePort (.u16 namePort)],
      ∀ other ∈ [Condition.eq .protocol (.u8 udp), Condition.eq .protocol (.u8 tcp)],
        condition.field ≠ other.field := by decide
  have split := allMet_append packet port
  rw [List.singleton_append, allMet_singleton] at split
  rw [nameConditions, split, Packet.isNameResolution, Bool.or_comm]
  simp only [Condition.allMet, Condition.eq, Condition.holds, List.all_cons, List.all_nil,
    List.any_cons, List.any_nil, decide_true, Bool.true_and, Bool.or_false, Bool.and_true,
    Bool.and_self]
  rfl

theorem allMet_servers {servers : List Address} (named : servers ≠ []) :
    Condition.allMet (servers.map fun server => .eq .remoteAddress (.address server)) packet =
      servers.contains packet.remoteAddress := by
  have any : (servers.any fun server => decide (packet.remoteAddress = server)) =
      servers.contains packet.remoteAddress := by
    rw [List.contains_eq_any_beq]
    simp only [Bool.beq_eq_decide_eq]
  obtain ⟨server, member⟩ := List.exists_mem_of_ne_nil servers named
  simp only [Condition.allMet, Condition.eq, Condition.holds, List.all_map, List.any_map,
    Function.comp_def, decide_true, Bool.true_and, any]
  rw [Bool.eq_iff_iff, List.all_eq_true]
  exact ⟨fun all => all server member, fun found _ _ => found⟩

end Conditions

/-! ## Denied and allowed -/

theorem stands_denyNames (scope : Scope) (weight : UInt8) :
    Stands .block weight (fun packet => packet.isFirstIn scope && packet.isNameResolution)
      (denyNames scope weight) :=
  (Stands.map _ nameConditions _).congr fun packet => by
    rw [contains_inScope, allMet_nameConditions]

theorem stands_allowNames (weight : UInt8) (servers : List Address) (family : Family) :
    Stands .allow weight (fun packet => packet.isFirstOf family && packet.isNameResolution &&
        (servers.contains packet.remoteAddress && packet.remoteAddress.family = family))
      (allowNames weight servers family) := by
  have kept : ∀ packet : Packet,
      (servers.filter (·.family = family)).contains packet.remoteAddress =
        (servers.contains packet.remoteAddress && packet.remoteAddress.family = family) := by
    intro packet
    rw [Bool.eq_iff_iff, List.contains_iff_mem, List.mem_filter, Bool.and_eq_true,
      List.contains_iff_mem]
  simp only [← kept]
  rw [allowNames]
  cases servers.filter (·.family = family) with
  | nil => exact ⟨by simp, fun packet => (Bool.and_false _).symm⟩
  | cons server rest =>
    have fields : ∀ condition ∈ nameConditions, condition.field ≠ .remoteAddress := by decide
    have apart : ∀ condition ∈ nameConditions, ∀ other ∈ (server :: rest).map fun server =>
        Condition.eq .remoteAddress (.address server), condition.field ≠ other.field := by
      intro condition member other inside
      obtain ⟨address, _, rfl⟩ := List.mem_map.mp inside
      exact fields condition member
    refine (Stands.map _ _ _).congr fun packet => ?_
    rw [contains_ofFamily, allMet_append packet apart, allMet_nameConditions,
      allMet_servers packet (List.cons_ne_nil _ _), Bool.and_assoc]

/-- The filters that allow name resolution again, for both families. -/
theorem stands_allowed (weight : UInt8) (servers : List Address) :
    Stands .allow weight (fun packet => packet.isFirst && packet.isNameResolution &&
        (servers.contains packet.remoteAddress &&
          packet.remoteAddress.family = packet.layer.family))
      (allowNames weight servers .v4 ++ allowNames weight servers .v6) :=
  ((stands_allowNames weight servers .v4).append
    (stands_allowNames weight servers .v6)).congr fun packet => by
      rw [Packet.isFirstOf, Packet.isFirstOf]
      cases packet.layer.family <;> cases packet.remoteAddress.family <;> simp

/-! ## Servers and filters together -/

theorem of_effectiveResolvers {scope : Scope} {servers effective : List Address}
    (admitted : ∀ server ∈ servers, scope.admits server = true)
    (found : effectiveResolvers scope servers = .ok effective) :
    effective = effectiveServers servers ∧
      ∀ server ∈ effective, scope.admits server = true := by
  rw [effectiveResolvers] at found
  cases servers with
  | cons server rest =>
    cases found
    exact ⟨rfl, admitted⟩
  | nil =>
    simp only [List.isEmpty_nil, Bool.not_true, Bool.false_eq_true, if_false] at found
    split at found
    next v4 =>
      cases found
      refine ⟨rfl, fun server member => ?_⟩
      rw [List.mem_singleton.mp member]
      exact v4
    next => cases found

/-- A scope that admits the servers takes in the layers on which they are allowed. -/
theorem stands_admitted {scope : Scope} {servers : List Address}
    (admitted : ∀ server ∈ servers, scope.admits server = true) (weight : UInt8) :
    Stands .allow weight (fun packet => packet.isFirstIn scope && packet.isNameResolution &&
        (servers.contains packet.remoteAddress &&
          packet.remoteAddress.family = packet.layer.family))
      (allowNames weight servers .v4 ++ allowNames weight servers .v6) := by
  refine (stands_allowed weight servers).congr fun packet => ?_
  rw [Packet.isFirstIn]
  cases named : servers.contains packet.remoteAddress &&
    decide (packet.remoteAddress.family = packet.layer.family) with
  | false => rw [Bool.and_false, Bool.and_false]
  | true =>
    rw [Bool.and_eq_true, List.contains_iff_mem, decide_eq_true_eq] at named
    have covered : scope.includes packet.layer.family = true :=
      named.2 ▸ admitted packet.remoteAddress named.1
    rw [covered, Bool.and_true, Bool.and_true, Bool.and_true]

/-- The filters of a directive on name resolution decide whatever it covers. -/
theorem decide_nameResolution {scope : Scope} {deny allow : UInt8}
    {servers effective : List Address} (admitted : ∀ server ∈ servers, scope.admits server = true)
    (below : deny < allow) (found : effectiveResolvers scope servers = .ok effective)
    (packet : Packet) :
    (Filter.prevailing? packet (denyNames scope deny ++ (allowNames allow effective .v4 ++
        allowNames allow effective .v6))).map (·.action) =
      if packet.isFirstIn scope && packet.isNameResolution then
        some (if (effectiveServers servers).contains packet.remoteAddress &&
          packet.remoteAddress.family = packet.layer.family then .allow else .block)
      else none := by
  obtain ⟨rfl, inside⟩ := of_effectiveResolvers admitted found
  have denied := stands_denyNames scope deny
  have allowed := stands_admitted inside allow
  have above : ∀ filter ∈ denyNames scope deny,
      ∀ other ∈ allowNames allow (effectiveServers servers) .v4 ++
        allowNames allow (effectiveServers servers) .v6, filter.weight < other.weight := by
    intro filter member other member'
    rw [(denied.uniform filter member).2, (allowed.uniform other member').2]
    exact below
  rw [Filter.prevailing?_append above, Option.map_or, denied.decide, allowed.decide]
  cases packet.isFirstIn scope && packet.isNameResolution with
  | false => rfl
  | true =>
    rw [Bool.true_and, if_pos rfl, if_pos rfl]
    split <;> rfl

end Rules

end TrafficPolicy
