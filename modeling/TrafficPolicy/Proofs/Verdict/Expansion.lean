import TrafficPolicy.Proofs.Policy.Collected
import TrafficPolicy.Proofs.Policy.Expands
import TrafficPolicy.Proofs.Verdict.NameServers

/-!
# What the filters of a directive decide

The filters that a directive expands to decide exactly the packets that it covers, and as it says
(`Directive.decide_expand`).
-/

namespace TrafficPolicy

namespace Directive

variable {resolver : Resolver} {directive : Directive} {assigned : Assigned}
  {filters : List Filter}

/-- Of the addresses of a host, those that the scope admits are kept. -/
theorem kept_of_hostAddresses {scope : Scope} {name : String} {found admitted : List Address}
    (inside : hostAddresses scope name found = .ok admitted) {address : Address} :
    admitted.contains address = (scope.admits address && found.contains address) := by
  obtain ⟨_, rfl⟩ := hostAddresses_eq_ok.mp inside
  rw [Bool.eq_iff_iff, List.contains_iff_mem, List.mem_filter, Bool.and_eq_true,
    List.contains_iff_mem, and_comm]

/-- But for name resolution, the filters of a directive stand for one rule. -/
theorem stands_expand (other : directive.kind.isNameResolution = false)
    (expanded : (directive.expand resolver assigned).result = .ok filters) :
    Rules.Stands directive.action assigned.weight (directive.covers resolver) filters := by
  cases expand_eq_ok.mp expanded with
  | nameResolution => cases other
  | allTraffic scope => exact Rules.stands_blockAll scope _
  | loopback scope => exact Rules.stands_allowLoopback scope _
  | localAreaNetwork => exact Rules.stands_allowLan _
  | @application action scope _ _ id found =>
    refine (Rules.stands_application action scope _ id).congr fun packet => ?_
    simp only [covers, Kind.covers, found]
  | peerName action _ _ name => exact Rules.stands_peerName _ _ name
  | @hostName action _ _ _ _ admitted looked inside =>
    refine (Rules.stands_addresses action _ admitted).congr fun packet => ?_
    rw [kept_of_hostAddresses inside, ← Bool.and_assoc]
    simp only [covers, Kind.covers, looked]
  | addresses _ _ _ list => exact Rules.stands_addresses _ _ list
  | ikev2 => exact Rules.stands_allowIkev2 _
  | tcpPort _ _ port => exact Rules.stands_allowPort Rules.tcp port _
  | udpPort _ _ port => exact Rules.stands_allowPort Rules.udp port _
  | localSubnet _ _ _ network => exact Rules.stands_subnet _ .localAddress _ network
  | remoteSubnet _ _ _ network => exact Rules.stands_subnet _ .remoteAddress _ network
  | interface scope _ index => exact Rules.stands_allowInterface scope _ index

/-- The filters of a directive have its weights. -/
theorem weight_of_mem_expand
    (expanded : (directive.expand resolver assigned).result = .ok filters) {filter : Filter}
    (member : filter ∈ filters) :
    filter.weight = assigned.weight ∨ assigned.deny = some filter.weight := by
  cases names : directive.kind.isNameResolution with
  | false => exact Or.inl ((stands_expand names expanded).uniform filter member).2
  | true =>
    cases expand_eq_ok.mp expanded with
    | @nameResolution scope _ deny _ effective denied =>
      rcases List.mem_append.mp member with blocked | allowed
      · rw [denied, ((Rules.stands_denyNames _ deny).uniform filter blocked).2]
        exact Or.inr rfl
      · exact Or.inl ((Rules.stands_allowed _ effective).uniform filter allowed).2
    | _ => cases names

/-- The filters of a directive decide what it covers, as it says. -/
theorem decide_expand (accepted : directive.Accepted)
    (expanded : (directive.expand resolver assigned).result = .ok filters) (packet : Packet) :
    (Filter.prevailing? packet filters).map (·.action) =
      if directive.covers resolver packet then some (directive.verdict packet) else none := by
  cases names : directive.kind.isNameResolution with
  | false =>
    rw [(stands_expand names expanded).decide, verdict_eq_action names]
  | true =>
    cases expand_eq_ok.mp expanded with
    | nameResolution scope hint denied below found =>
      rw [Rules.decide_nameResolution (accepted.admits rfl) below found, covers, verdict]
      rfl
    | _ => cases names

end Directive

end TrafficPolicy
