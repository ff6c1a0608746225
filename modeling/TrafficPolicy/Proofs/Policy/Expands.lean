import TrafficPolicy.Proofs.Policy.Compile

/-!
# The ways directives expand

`Directive.Expands` lists what the directives expand to, a rule for each kind, and
`Directive.expand_eq_ok` says that there is nothing else.  A fact about the filters of all
directives has one case a rule.
-/

namespace TrafficPolicy

theorem Rules.nameResolution_eq_ok {scope : Scope} {deny allow : UInt8} {servers : List Address}
    {filters : List Filter} :
    nameResolution scope deny allow servers = .ok filters ↔
      deny < allow ∧ ∃ effective, effectiveResolvers scope servers = .ok effective ∧
        filters = denyNames scope deny ++
          (allowNames allow effective .v4 ++ allowNames allow effective .v6) := by
  rw [nameResolution]
  by_cases below : deny < allow
  · rw [if_pos below, bind_eq_ok]
    constructor
    · rintro ⟨effective, found, eq⟩
      cases eq
      exact ⟨below, effective, found, List.append_assoc ..⟩
    · rintro ⟨_, effective, found, rfl⟩
      exact ⟨effective, found, congrArg Except.ok (List.append_assoc ..)⟩
  · rw [if_neg below]
    exact ⟨nofun, fun ⟨less, _⟩ => absurd less below⟩

namespace Directive

/-- A host has addresses in scope just if the scope admits some, and they are those. -/
theorem hostAddresses_eq_ok {scope : Scope} {name : String} {found admitted : List Address} :
    hostAddresses scope name found = .ok admitted ↔
      admitted ≠ [] ∧ admitted = found.filter scope.admits := by
  rw [hostAddresses]
  cases found.filter scope.admits with
  | nil => exact ⟨nofun, fun ⟨inhabited, empty⟩ => absurd empty inhabited⟩
  | cons address rest =>
    constructor
    · rintro ⟨⟩
      exact ⟨List.cons_ne_nil _ _, rfl⟩
    · rintro ⟨_, rfl⟩
      rfl

/-- What a directive with its weights expands to. -/
inductive Expands (resolver : Resolver) (assigned : Assigned) : Directive → List Filter → Prop
  | allTraffic (scope : Scope) (hint : WeightHint) :
    Expands resolver assigned ⟨.block, scope, .allTraffic, hint⟩
      (Rules.blockAll scope assigned.weight)
  | loopback (scope : Scope) (hint : WeightHint) :
    Expands resolver assigned ⟨.allow, scope, .loopback, hint⟩
      (Rules.allowLoopback scope assigned.weight)
  | localAreaNetwork (scope : Scope) (hint : WeightHint) :
    Expands resolver assigned ⟨.allow, scope, .localAreaNetwork, hint⟩
      (Rules.allowLan assigned.weight)
  | nameResolution (scope : Scope) (hint : WeightHint) {deny : UInt8}
    {servers effective : List Address} (denied : assigned.deny = some deny)
    (below : deny < assigned.weight)
    (found : Rules.effectiveResolvers scope servers = .ok effective) :
    Expands resolver assigned ⟨.allow, scope, .nameResolution servers, hint⟩
      (Rules.denyNames scope deny ++ (Rules.allowNames assigned.weight effective .v4 ++
        Rules.allowNames assigned.weight effective .v6))
  | application (action : Action) (scope : Scope) (hint : WeightHint) {path : Path} {id : AppId}
    (found : resolver.appId path = .ok id) :
    Expands resolver assigned ⟨action, scope, .application path, hint⟩
      (Rules.application action scope assigned.weight id)
  | peerName (action : Action) (scope : Scope) (hint : WeightHint) (name : String) :
    Expands resolver assigned ⟨action, scope, .peerName name, hint⟩
      [Rules.peerName action assigned.weight name]
  | hostName (action : Action) (scope : Scope) (hint : WeightHint) {name : String}
    {found admitted : List Address} (looked : resolver.hostAddresses name = .ok found)
    (inside : hostAddresses scope name found = .ok admitted) :
    Expands resolver assigned ⟨action, scope, .hostName name, hint⟩
      (Rules.addresses action assigned.weight admitted)
  | addresses (action : Action) (scope : Scope) (hint : WeightHint) (addresses : List Address) :
    Expands resolver assigned ⟨action, scope, .addresses addresses, hint⟩
      (Rules.addresses action assigned.weight addresses)
  | ikev2 (scope : Scope) (hint : WeightHint) :
    Expands resolver assigned ⟨.allow, scope, .ikev2, hint⟩ (Rules.allowIkev2 assigned.weight)
  | tcpPort (scope : Scope) (hint : WeightHint) (port : UInt16) :
    Expands resolver assigned ⟨.allow, scope, .tcpPort port, hint⟩
      (Rules.allowPort Rules.tcp port assigned.weight)
  | udpPort (scope : Scope) (hint : WeightHint) (port : UInt16) :
    Expands resolver assigned ⟨.allow, scope, .udpPort port, hint⟩
      (Rules.allowPort Rules.udp port assigned.weight)
  | localSubnet (action : Action) (scope : Scope) (hint : WeightHint) (network : Network) :
    Expands resolver assigned ⟨action, scope, .localSubnet network, hint⟩
      (Rules.subnet action .localAddress assigned.weight network)
  | remoteSubnet (action : Action) (scope : Scope) (hint : WeightHint) (network : Network) :
    Expands resolver assigned ⟨action, scope, .remoteSubnet network, hint⟩
      (Rules.subnet action .remoteAddress assigned.weight network)
  | interface (scope : Scope) (hint : WeightHint) (index : UInt64) :
    Expands resolver assigned ⟨.allow, scope, .interface index, hint⟩
      (Rules.allowInterface scope assigned.weight index)

variable {resolver : Resolver} {directive : Directive} {assigned : Assigned}
  {filters : List Filter}

theorem expand_eq_ok :
    (directive.expand resolver assigned).result = .ok filters ↔
      Expands resolver assigned directive filters := by
  constructor
  · intro expanded
    obtain ⟨action, scope, kind, hint⟩ := directive
    cases kind with
    | nameResolution servers =>
      cases action with
      | block => cases expanded
      | allow =>
        simp only [expand] at expanded
        cases denied : assigned.deny with
        | none =>
          rw [denied] at expanded
          cases expanded
        | some deny =>
          rw [denied] at expanded
          obtain ⟨below, _, found, rfl⟩ := Rules.nameResolution_eq_ok.mp expanded
          exact .nameResolution scope hint denied below found
    | application path =>
      have known : ∃ id, resolver.appId path = .ok id ∧
          Rules.application action scope assigned.weight id = filters := by
        cases action <;> simp only [expand, Looked.result_bind, bind_eq_ok] at expanded <;>
          exact expanded.imp fun id both => ⟨both.1, Except.ok.inj both.2⟩
      obtain ⟨id, found, rfl⟩ := known
      exact .application action scope hint found
    | hostName name =>
      have known : ∃ found admitted, resolver.hostAddresses name = .ok found ∧
          hostAddresses scope name found = .ok admitted ∧
          Rules.addresses action assigned.weight admitted = filters := by
        cases action <;> simp only [expand, Looked.result_bind, bind_eq_ok] at expanded <;>
          obtain ⟨found, looked, admitted, inside, eq⟩ := expanded <;>
          exact ⟨found, admitted, looked, inside, Except.ok.inj eq⟩
      obtain ⟨found, admitted, looked, inside, rfl⟩ := known
      exact .hostName action scope hint looked inside
    | _ => cases action <;> cases expanded <;> constructor
  · intro expands
    cases expands with
    | nameResolution scope hint denied below found =>
      simp only [expand, denied]
      exact Rules.nameResolution_eq_ok.mpr ⟨below, _, found, rfl⟩
    | application action scope hint found =>
      cases action <;> simp only [expand, Looked.result_bind, bind_eq_ok] <;>
        exact ⟨_, found, rfl⟩
    | hostName action scope hint looked inside =>
      cases action <;> simp only [expand, Looked.result_bind, bind_eq_ok] <;>
        exact ⟨_, looked, _, inside, rfl⟩
    | peerName action => cases action <;> rfl
    | addresses action => cases action <;> rfl
    | localSubnet action => cases action <;> rfl
    | remoteSubnet action => cases action <;> rfl
    | _ => rfl

end Directive

end TrafficPolicy
