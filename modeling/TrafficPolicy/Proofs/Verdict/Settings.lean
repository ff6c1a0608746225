import TrafficPolicy.Proofs.Policy.Collected
import TrafficPolicy.Proofs.Verdict.LastDeclared
import TrafficPolicy.Settings

/-!
# The verdict of a kill switch

`Settings.verdict` says what becomes of a connection under some settings, rule by rule.  The policy
of the settings, installed in an engine that holds nothing else, decides exactly so
(`Settings.classify_eq_verdict`).
-/

namespace TrafficPolicy

namespace Settings

/-- What a kill switch allows is said of both families. -/
def context : Context := { action := .allow }

/-- What settings let through, in order of declaration. -/
def allowed (settings : Settings) : List Kind :=
  [Kind.loopback] ++ settings.tunnelInterface.toList.map Kind.interface ++
    (if settings.allowIkev2 then [Kind.ikev2] else []) ++
    [Kind.nameResolution (settings.nameServers.filter (!·.isUnspecified))] ++
    (if settings.allowLan then [Kind.localAreaNetwork] else []) ++
    settings.trustedApps.map Kind.application

/-- The directives that stand for settings, in order of declaration. -/
def program (settings : Settings) : List Directive :=
  Builder.directive {} .allTraffic :: settings.allowed.map (Builder.directive context)

/-- The builder of settings collects the directives that stand for them. -/
theorem collects_builder (settings : Settings) :
    settings.builder.Collects context settings.program := by
  have nothing : Builder.empty.block.Collects {} [] := ⟨rfl, fun _ => ⟨rfl, by simp⟩, fun _ => rfl⟩
  have all : Builder.empty.block.all.allow.Collects context [Builder.directive {} .allTraffic] :=
    (nothing.push "all" .allTraffic).allow
  unfold builder program allowed
  -- The name servers stay a variable, or Lean reads addresses to find the branch.
  generalize settings.nameServers = servers
  extract_lets start tunnel ikev2 names lan
  have localhost : start.Collects context
      [Builder.directive {} .allTraffic, Builder.directive context .loopback] :=
    all.push "localhost" .loopback
  have tunnelled : tunnel.Collects context _ := localhost.interface settings.tunnelInterface
  have exchanged : ikev2.Collects context _ := tunnelled.ite settings.allowIkev2 "ikev2" .ikev2
  have named : names.Collects context _ := exchanged.names servers
  have near : lan.Collects context _ :=
    named.ite settings.allowLan "local_area_network" .localAreaNetwork
  simp only [List.map_append]
  exact near.applications settings.trustedApps

/-- No directive of settings has a weight of its own. -/
theorem implicit_of_mem_program {settings : Settings} {directive : Directive}
    (member : directive ∈ settings.program) : directive.weight = .implicit := by
  rcases List.mem_cons.mp member with rfl | inside
  · rfl
  · obtain ⟨kind, _, rfl⟩ := List.mem_map.mp inside
    rfl

/-! ## The verdict -/

/-- The name servers that may be asked. -/
def resolvers (settings : Settings) : List Address :=
  effectiveServers (settings.nameServers.filter (!·.isUnspecified))

/-- The packet is of a program that is always let through. -/
def trusts (settings : Settings) (resolver : Resolver) (packet : Packet) : Bool :=
  settings.trustedApps.any fun path =>
    match resolver.appId path with
    | .ok id => packet.app = some id
    | .error _ => false

/-- What becomes of a packet that opens a connection, by the first rule that speaks of it. -/
def verdict (settings : Settings) (resolver : Resolver) (packet : Packet) : Action :=
  if settings.trusts resolver packet then .allow
  else if settings.allowLan ∧ packet.layer ∈ [.connectV4, .acceptV4] ∧
      packet.remoteAddress.isLan then .allow
  else if packet.isNameResolution then
    if packet.remoteAddress ∈ settings.resolvers ∧
        packet.remoteAddress.family = packet.layer.family then .allow
    else .block
  else if settings.allowIkev2 ∧ packet.layer ∈ [.connectV4, .acceptV4] ∧
      (packet.localAddress.isTunnel ∨ packet.protocol = 4) then .allow
  else if settings.tunnelInterface = some packet.interface then .allow
  else if packet.flags &&& 1 = 1 then .allow
  else .block

section Said

variable {settings : Settings} {resolver : Resolver} {packet : Packet}

/-- What kinds other than name resolution say in the context of the settings. -/
theorem said?_kinds {kinds : List Kind} (other : ∀ kind ∈ kinds, kind.isNameResolution = false) :
    Directive.said? resolver packet (kinds.map (Builder.directive context)) =
      if kinds.any (·.covers resolver .both packet) then some .allow else none := by
  have uniform : ∀ directive ∈ kinds.map (Builder.directive context),
      directive.verdict packet = .allow := by
    intro directive member
    obtain ⟨kind, inside, rfl⟩ := List.mem_map.mp member
    exact Directive.verdict_eq_action (other kind inside) packet
  rw [Directive.said?_uniform uniform, List.any_map]
  rfl

theorem isFirstOf_v4 (first : packet.isFirst = true) :
    packet.isFirstOf .v4 = true ↔ packet.layer ∈ [.connectV4, .acceptV4] := by
  revert first
  rw [Packet.isFirstOf, Packet.isFirst]
  cases packet.layer <;> decide

theorem said?_names (first : packet.isFirst = true) (servers : List Address) :
    Directive.said? resolver packet [Builder.directive context (.nameResolution servers)] =
      if packet.isNameResolution then
        some (if packet.remoteAddress ∈ effectiveServers servers ∧
          packet.remoteAddress.family = packet.layer.family then .allow else .block)
      else none := by
  have covered : (Builder.directive context (.nameResolution servers)).covers resolver packet =
      packet.isNameResolution := by
    simp only [Directive.covers, Builder.directive, Kind.covers, context, Packet.isFirstIn, first,
      Scope.includes, Bool.true_and]
  rw [Directive.said?_singleton, covered]
  simp only [Directive.verdict, Builder.directive, Bool.and_eq_true, List.contains_iff_mem,
    decide_eq_true_eq]

/-- A rule that may say something comes before what is said otherwise. -/
theorem ite_or {speaks : Prop} [Decidable speaks] (action otherwise : Action) :
    (if speaks then some action else none).or (some otherwise) =
      some (if speaks then action else otherwise) := by
  split <;> rfl

theorem said?_interface (first : packet.isFirst = true) (index? : Option UInt64) :
    Directive.said? resolver packet
        ((index?.toList.map Kind.interface).map (Builder.directive context)) =
      if index? = some packet.interface then some .allow else none := by
  rw [said?_kinds (by simp [Kind.isNameResolution])]
  cases index? with
  | none => rfl
  | some index =>
    simp [Kind.covers, Packet.isFirstIn, Scope.includes, first, eq_comm]

theorem said?_apps (first : packet.isFirst = true) :
    Directive.said? resolver packet
        ((settings.trustedApps.map Kind.application).map (Builder.directive context)) =
      if settings.trusts resolver packet then some .allow else none := by
  rw [said?_kinds (by simp [Kind.isNameResolution]), List.any_map]
  simp only [Function.comp_def, Kind.covers, Packet.isFirstIn, Scope.includes, first,
    Bool.true_and, trusts]
  rfl

/-- What is let through on demand, of packets for which it speaks. -/
theorem said?_ite {kind : Kind} (other : kind.isNameResolution = false) (wanted : Bool)
    {speaks : Prop} [Decidable speaks]
    (covers : kind.covers resolver .both packet = true ↔ speaks) :
    Directive.said? resolver packet
        ((if wanted then [kind] else []).map (Builder.directive context)) =
      if wanted ∧ speaks then some .allow else none := by
  cases wanted with
  | false => rfl
  | true =>
    rw [said?_kinds (by simpa using other)]
    simp [covers]

theorem covers_loopback (first : packet.isFirst = true) :
    Kind.loopback.covers resolver .both packet = true ↔ packet.flags &&& 1 = 1 := by
  simp [Kind.covers, Packet.isFirstIn, Scope.includes, first]

theorem covers_ikev2 (first : packet.isFirst = true) :
    Kind.ikev2.covers resolver .both packet = true ↔ packet.layer ∈ [.connectV4, .acceptV4] ∧
      (packet.localAddress.isTunnel ∨ packet.protocol = 4) := by
  rw [Kind.covers, Bool.and_eq_true, isFirstOf_v4 first, Bool.or_eq_true, decide_eq_true_eq]

theorem covers_localAreaNetwork (first : packet.isFirst = true) :
    Kind.localAreaNetwork.covers resolver .both packet = true ↔
      packet.layer ∈ [.connectV4, .acceptV4] ∧ packet.remoteAddress.isLan := by
  rw [Kind.covers, Bool.and_eq_true, isFirstOf_v4 first]

/-- Of a packet that opens a connection, the program of the settings says their verdict. -/
theorem said?_program_of_first (first : packet.isFirst = true) :
    Directive.said? resolver packet settings.program =
      some (settings.verdict resolver packet) := by
  have all : Directive.said? resolver packet [Builder.directive {} .allTraffic] = some .block := by
    have covered : (Builder.directive {} .allTraffic).covers resolver packet = true := by
      simp [Directive.covers, Builder.directive, Kind.covers, Packet.isFirstIn, Scope.includes,
        first]
    rw [Directive.said?_singleton, if_pos covered]
    rfl
  have loopback := @said?_ite resolver packet .loopback rfl true _ _ (covers_loopback first)
  have tunnel := @said?_interface resolver packet first settings.tunnelInterface
  have ikev2 := @said?_ite resolver packet .ikev2 rfl settings.allowIkev2 _ _ (covers_ikev2 first)
  have names := @said?_names resolver packet first
    (settings.nameServers.filter (!·.isUnspecified))
  have lan := @said?_ite resolver packet .localAreaNetwork rfl settings.allowLan _ _
    (covers_localAreaNetwork first)
  have apps := @said?_apps settings resolver packet first
  simp only [if_true, List.map_cons, List.map_nil, true_and] at loopback
  rw [program, allowed, ← List.singleton_append]
  simp only [List.map_append, List.map_cons, List.map_nil, Directive.said?_append, all, loopback,
    tunnel, ikev2, names, lan, apps, Option.or_assoc]
  simp only [ite_or, verdict, resolvers]
  rfl

/-- Of a packet of an established connection, the program says nothing. -/
theorem said?_program_of_established (established : packet.layer = .establishedV4) :
    Directive.said? resolver packet settings.program = none := by
  have later : packet.isFirst = false := by simp [Packet.isFirst, established]
  have silent : ∀ directive ∈ settings.program, directive.covers resolver packet = false := by
    intro directive member
    rcases List.mem_cons.mp member with rfl | inside
    · simp [Directive.covers, Builder.directive, Kind.covers, Packet.isFirstIn, later]
    · obtain ⟨kind, among, rfl⟩ := List.mem_map.mp inside
      simp only [allowed, List.mem_append, List.mem_map, List.mem_singleton,
        List.mem_ite_nil_right] at among
      rcases among with ((((rfl | ⟨_, _, rfl⟩) | ⟨_, rfl⟩) | rfl) | ⟨_, rfl⟩) | ⟨_, _, rfl⟩ <;>
        simp [Directive.covers, Builder.directive, Kind.covers, Packet.isFirstIn,
          Packet.isFirstOf, later]
  rw [Directive.said?, Option.map_eq_none_iff, List.find?_eq_none]
  intro directive member
  rw [silent directive (List.mem_reverse.mp member)]
  exact Bool.false_ne_true

end Said

/-- The policy of some settings, in an engine without other filters, decides as their verdict
says.  Of established connections it decides nothing. -/
theorem classify_eq_verdict {settings : Settings} {resolver : Resolver} {policy : Policy}
    {memory after : Memory} {options : InstallOptions} {installed : Installed SessionId}
    (compiled : (settings.builder.compile resolver).result = .ok policy)
    (reachable : memory.Reachable) (empty : memory.filters = [])
    (done : policy.install Memory.engine options memory = (.ok installed, after))
    (packet : Packet) :
    after.classify packet =
      if packet.layer = .establishedV4 then none else some (settings.verdict resolver packet) := by
  obtain ⟨_, collected⟩ := collects_builder settings
  rw [Builder.compile] at compiled
  cases broken : settings.builder.error with
  | some error =>
    rw [broken] at compiled
    cases compiled
  | none =>
    obtain ⟨same, accepted⟩ := collected broken
    simp only [broken, same] at compiled
    rw [policy.classify_install reachable.sound empty done packet,
      Policy.decide_compile accepted (fun _ => implicit_of_mem_program) compiled packet]
    by_cases established : packet.layer = .establishedV4
    · rw [if_pos established]
      exact said?_program_of_established established
    · rw [if_neg established]
      exact said?_program_of_first (decide_eq_true established)

theorem classify_own_names :
    let settings : Settings := { enableKillSwitch := true }
    ∃ policy installed after,
      (settings.builder.compile ({} : LookupTable).resolver).result = .ok policy ∧
        policy.install Memory.engine {} {} = (.ok installed, after) ∧
        after.classify (.outbound (.ofOctets 10 255 0 1) 53 17) = some .allow ∧
        after.classify (.outbound (.ofOctets 9 9 9 9) 53 17) = some .block := by
  intro settings
  obtain ⟨installed, ran⟩ := @exists_eq_ok _ _
    ((settings.builder.compile ({} : LookupTable).resolver).result >>= fun policy =>
      (policy.install Memory.engine {} {}).1) (by simp only [settings]; decide +kernel)
  obtain ⟨policy, compiled, done⟩ := bind_eq_ok.mp ran
  have verdict := classify_eq_verdict compiled .start rfl (Prod.ext done rfl)
  refine ⟨policy, installed, _, compiled, Prod.ext done rfl, ?_, ?_⟩
  · rw [verdict]
    simp only [settings]
    decide +kernel
  · rw [verdict]
    simp only [settings]
    decide +kernel

end Settings

end TrafficPolicy
