import TrafficPolicy.Plan
import TrafficPolicy.Proofs.Install.Unhindered
import TrafficPolicy.Proofs.KillSwitch.Failure
import TrafficPolicy.Proofs.Policy.Lookups
import TrafficPolicy.Proofs.Policy.Printed

/-!
# Plans are what is installed

A settings file that can be read and compiled has a plan: the dry run on a fresh engine in memory
does not fail.  The filters that the plan lists are those that the dry run commits, and those that a
kill switch commits for the settings when they are switched on (`World.apply_commits`), wherever the
resolver gives the same answers.  And a plan loses nothing of the policy (`Policy.eq_of_json_eq`).
-/

namespace TrafficPolicy

open Memory

/-! ## What a plan lists -/

namespace Json

/-- The items of a list. -/
def items : Json → List Json
  | array items => items
  | _ => []

/-- The value of a field of an object. -/
def field? (name : String) : Json → Option Json
  | object fields => fields.lookup name
  | _ => none

/-- The filters that a plan lists, entry by entry. -/
def listedFilters (plan : Json) : List Json :=
  plan.items.flatMap fun entry => (entry.field? "filters").elim [] items

end Json

theorem CompiledDirective.field?_json (directive : CompiledDirective) :
    directive.json.field? "filters" = some (.array (directive.filters.map Filter.json)) := by
  rw [json]
  cases directive.weight.deny <;> rfl

theorem Policy.listedFilters_json (policy : Policy) :
    policy.json.listedFilters = policy.filters.map Filter.json := by
  rw [json, Json.listedFilters, Json.items, List.flatMap_map, filters, List.map_flatMap]
  simp only [CompiledDirective.field?_json, Option.elim_some, Json.items]

/-! ## Installed policies -/

/-- The filters under the namespace of an installed policy are those of the policy, in order. -/
theorem Installed.Complete.commits {frame memory : Memory} {others : List Tenant} {policy : Policy}
    {installed : Installed SessionId} (complete : installed.Complete policy)
    (hosts : Hosts frame (installed.tenant policy :: others) memory) :
    memory.filtersIn installed.ns = (installed.tenant policy).filters ∧
      (memory.filtersIn installed.ns).map (·.filter) = policy.filters ∧
      (memory.filtersIn installed.ns).map (·.id) = installed.ids := by
  obtain ⟨session, opened⟩ := Option.isSome_iff_exists.mp complete.1
  rw [Installed.tenant_of_session opened] at hosts ⊢
  rw [hosts.filtersIn_eq]
  exact ⟨rfl, Namespace.map_stored complete.2⟩

/-! ## Dry runs -/

namespace Plan

/-- The dry run has committed the filters of the policy, in order, and nothing else. -/
structure Committed (plan : Plan) : Prop where
  contents : (plan.engine.filtersIn plan.installed.ns).map (·.filter) = plan.policy.filters
  numbers : (plan.engine.filtersIn plan.installed.ns).map (·.id) = plan.installed.ids
  alone : plan.engine.filters = plan.engine.filtersIn plan.installed.ns

/-- The dry run of a policy that compiles succeeds. -/
theorem exists_ofConfig {resolver : Resolver} {config : Config} {policy : Policy}
    (compiled : (config.settings.builder.compile resolver).result = .ok policy) :
    ∃ plan, ofConfig resolver config = .ok plan ∧ plan.policy = policy ∧ plan.Committed := by
  obtain ⟨installed, engine, succeeded, complete, _, hosts⟩ :=
    policy.install_unarmed config.session.installOptions unarmed_empty sound_empty.hosts_nil
  have ran : ofConfig resolver config =
      let run := policy.install Memory.engine config.session.installOptions {}
      run.1 >>= fun installed => .ok ⟨policy, installed, run.2⟩ := by
    rw [ofConfig, compiled]
    rfl
  obtain ⟨all, contents, numbers⟩ := complete.commits hosts
  refine ⟨⟨policy, installed, engine⟩, ?_, rfl, contents, numbers, ?_⟩
  · rw [ran, succeeded]
    rfl
  · rw [all]
    exact hosts.filters_of_alone rfl

theorem ofFile_of_load {system : System} {path : Path} {config : Config}
    (loaded : load system path = .ok config) :
    ofFile system path = ofConfig system.resolver config := by
  rw [ofFile, loaded]
  rfl

theorem run_of_ofFile {system : System} {path : String} {plan : Plan}
    (planned : ofFile system (Path.ofString path) = .ok plan) (rest : List String) :
    run system (path :: rest) = { status := 0, output := some plan.policy.json } := by
  rw [run, planned]

end Plan

/-! ## Kill switches -/

namespace World

variable {σ ρ : Type}

/-- The policy in force has these filters, in order.  All that the engine has beside them was
granted to others. -/
def Commits (view : σ → Memory) (others : List SessionId) (theirs : List (SessionId × Write))
    (filters : List Filter) (world : World σ SessionId ρ) : Prop :=
  ∃ installed, world.killSwitch.active = some installed ∧
    ((view world.engine).filtersIn installed.ns).map (·.filter) = filters ∧
    ∀ stored ∈ (view world.engine).filters, stored ∈ (view world.engine).filtersIn installed.ns ∨
      ∃ id ∈ others, (id, .filter stored) ∈ theirs

variable {view : σ → Memory} {others : List SessionId} {theirs : List (SessionId × Write)}
  {resolver : Resolver} {settings : Settings} {policy : Policy} {vpnAddress : Option Address}

/-- Settings that are put into force have the filters of their policy committed. -/
theorem apply_commits {world : World σ SessionId ρ} {outer : Engine σ SessionId}
    (shared : Shared view others theirs world) (front : Front outer view)
    (manager : RouteManager ρ) (fresh : ¬ world.Current settings vpnAddress)
    (wanted : settings.enableKillSwitch = true)
    (compiled : (settings.builder.compile resolver).result = .ok policy)
    (succeeded : (world.apply outer manager resolver settings vpnAddress).1.result = .ok ()) :
    (world.apply outer manager resolver settings vpnAddress).2.Commits view others theirs
      policy.filters := by
  have went := applied outer manager resolver settings vpnAddress world
  generalize (world.apply outer manager resolver settings vpnAddress).1 = result at went succeeded
  generalize (world.apply outer manager resolver settings vpnAddress).2 = final at went ⊢
  cases went with
  | kept current => exact absurd current fresh
  | stopped _ unwanted => rw [wanted] at unwanted; cases unwanted
  | uncompiled _ _ refused => rw [compiled] at refused; cases refused
  | failed => cases succeeded
  | installed _ _ compiled' swapped =>
    rw [compiled] at compiled'
    cases compiled'
    rcases swap_hosts front (shared.parted.imp_left And.left) policy with
      ⟨_, _, eq, _⟩ | ⟨_, between, _, eq, complete, beside, hosts⟩ <;> rw [swapped] at eq <;>
      cases eq
    obtain ⟨all, contents, _⟩ := complete.commits hosts
    rw [Commits, active_moveRoutes, engine_moveRoutes]
    refine ⟨_, rfl, contents, fun stored present => ?_⟩
    rw [all]
    rcases (hosts.filters stored).mp present with before | ⟨tenant, inside, kept⟩
    · exact Or.inr (beside.all_theirs.2 _ (filter_registered before))
    · exact Or.inl (List.mem_singleton.mp inside ▸ kept)

section Unhindered

variable {world : World Memory SessionId ρ}

theorem teardown_unarmed (unarmed : world.engine.Unarmed) :
    ∃ next, world.teardown Memory.engine = (.ok (), next) ∧ next.engine.Unarmed := by
  rw [World.teardown]
  cases world.killSwitch.active with
  | none => exact ⟨_, rfl, unarmed⟩
  | some installed =>
    dsimp only
    rw [Installed.teardown]
    cases installed.session with
    | none => exact ⟨_, rfl, unarmed⟩
    | some session =>
      have granted : (Memory.call session .close world.engine).1 = .ok () := by
        rw [Memory.call]
        cases world.engine.session? session <;> rfl
      refine ⟨_, Prod.ext (congrArg (Except.mapError _) granted) rfl, ?_⟩
      exact ((arms_call ..).trans (arms_call ..)).trans unarmed

theorem swap_unarmed (unarmed : world.engine.Unarmed)
    (held : world.Vacant id others theirs ∨ world.Occupied id others theirs) (policy : Policy) :
    ∃ installed next, world.swap Memory.engine policy = (.ok installed, next) := by
  have vacant := vacant_teardown front_engine held
  obtain ⟨between, torn, unarmed⟩ := teardown_unarmed unarmed
  rw [torn] at vacant
  obtain ⟨installed, state, succeeded, _⟩ :=
    policy.install_unarmed between.killSwitch.options unarmed vacant.beside.sound.hosts_nil
  refine ⟨installed, { between with engine := state }, ?_⟩
  rw [World.swap, torn]
  simp only [succeeded]

/-- Settings that compile are put into force where no call of the engine is to fail. -/
theorem apply_unarmed (shared : Shared id others theirs world) (unarmed : world.engine.Unarmed)
    (manager : RouteManager ρ) (wanted : settings.enableKillSwitch = true)
    (compiled : (settings.builder.compile resolver).result = .ok policy) :
    (world.apply Memory.engine manager resolver settings vpnAddress).1.result = .ok () := by
  have went := applied Memory.engine manager resolver settings vpnAddress world
  generalize (world.apply Memory.engine manager resolver settings vpnAddress).1 = result at went ⊢
  generalize (world.apply Memory.engine manager resolver settings vpnAddress).2 = final at went
  cases went with
  | kept => rfl
  | stopped _ unwanted => rw [wanted] at unwanted; cases unwanted
  | uncompiled _ _ refused => rw [compiled] at refused; cases refused
  | @failed _ _ policy _ _ _ swapped =>
    obtain ⟨_, _, succeeded⟩ := swap_unarmed unarmed (shared.parted.imp_left And.left) policy
    rw [swapped] at succeeded
    cases succeeded
  | installed => rfl

end Unhindered

end World

/-- The settings with the kill switch switched on. -/
def Settings.switchedOn (settings : Settings) : Settings :=
  { settings with enableKillSwitch := true }

/-- The policy of settings does not depend on the switch. -/
theorem Settings.builder_switchedOn (settings : Settings) :
    settings.switchedOn.builder = settings.builder := by
  rw [builder, builder, nameServers, nameServers, switchedOn]

namespace Plan

/-- A settings file that can be read and compiled has its plan printed.  The filters listed there
are, in order, those that the dry run has committed.  A kill switch that puts the settings into
force, switched on and with the same answers to the same lookups, has the same filters committed,
beside whatever others have in the engine; and it does put them into force where no call is made to
fail.  Policies with one plan are one policy. -/
theorem printed_is_committed :
    (∀ (system : System) (path : String) (rest : List String) (config : Config) (policy : Policy),
      load system (Path.ofString path) = .ok config →
      (config.settings.builder.compile system.resolver).result = .ok policy →
      (∃ plan, ofFile system (Path.ofString path) = .ok plan ∧ plan.policy = policy ∧
        run system (path :: rest) = { status := 0, output := some policy.json } ∧
        plan.Committed ∧ policy.json.listedFilters =
          (plan.engine.filtersIn plan.installed.ns).map (·.filter.json)) ∧
      ∀ resolver : Resolver,
        (∀ asked ∈ (config.settings.builder.compile system.resolver).lookups,
          system.resolver.Agrees resolver asked) →
        (∀ {σ ρ : Type} {view : σ → Memory} {others : List SessionId}
          {theirs : List (SessionId × Write)} {world : World σ SessionId ρ},
          World.Shared view others theirs world → ∀ outer, Front outer view →
          ∀ manager vpnAddress, ¬ world.Current config.settings.switchedOn vpnAddress →
          let applied := world.apply outer manager resolver config.settings.switchedOn vpnAddress
          applied.1.result = .ok () → applied.2.Commits view others theirs policy.filters) ∧
        ∀ {ρ : Type} {others : List SessionId} {theirs : List (SessionId × Write)}
          {world : World Memory SessionId ρ},
          World.Shared id others theirs world → world.engine.Unarmed → ∀ manager vpnAddress,
          (world.apply Memory.engine manager resolver config.settings.switchedOn
            vpnAddress).1.result = .ok ()) ∧
    ∀ (resolver resolver' : Resolver) (program program' : List Directive)
      (policy policy' : Policy), (Policy.compile resolver program).result = .ok policy →
      (Policy.compile resolver' program').result = .ok policy' →
      policy.json = policy'.json → policy = policy' := by
  refine ⟨fun system path rest config policy loaded compiled => ⟨?_, fun resolver agrees => ?_⟩,
    fun _ _ _ _ _ _ => Policy.eq_of_json_eq⟩
  · obtain ⟨plan, planned, rfl, committed⟩ := exists_ofConfig compiled
    rw [← ofFile_of_load loaded] at planned
    refine ⟨plan, planned, rfl, run_of_ofFile planned rest, committed, ?_⟩
    rw [plan.policy.listedFilters_json, ← committed.contents, List.map_map]
    rfl
  · have same : (config.settings.switchedOn.builder.compile resolver).result = .ok policy := by
      rw [config.settings.builder_switchedOn, Builder.compile_of_agrees agrees, compiled]
    exact ⟨fun shared outer front manager vpnAddress fresh =>
      World.apply_commits shared front manager fresh rfl same,
      fun shared unarmed manager vpnAddress => World.apply_unarmed shared unarmed manager rfl same⟩

/-- The plan of a file that names a tunnel is printed, and a new kill switch commits what it lists.
A host that is blocked has the same plan under its name and its address, and so the same policy. -/
theorem printed_for_tunnel :
    let text := "version: 1\nfirewall: \x7btunnel_interface: 7, allow_lan: false\x7d\n"
    let system : System := ⟨fun _ => .ok (Utf8.encode text), fun _ => .error .notFound⟩
    let config : Config := ⟨1, { allowLan := false, tunnelInterface := some 7 }, {}⟩
    let table := ({} : LookupTable).addHost "peer" [.v4 0x0A000001]
    let world : World Memory SessionId Unit := ⟨{}, {}, ()⟩
    let applied :=
      world.apply Memory.engine .none table.resolver config.settings.switchedOn none
    let blocking (name : String) : List Directive := [⟨.block, .both, .hostName name, .implicit⟩]
    (∃ policy : Policy, run system ["plan.yaml"] = { status := 0, output := some policy.json } ∧
        policy.filterCount = 22 ∧ applied.1.result = .ok () ∧
        applied.2.Commits id [] [] policy.filters) ∧
      ∃ policy policy', (Policy.compile system.resolver (blocking "10.0.0.1")).result = .ok policy ∧
        (Policy.compile table.resolver (blocking "peer")).result = .ok policy' ∧
        policy.json = policy'.json ∧ policy = policy' := by
  intro text system config table world applied blocking
  obtain ⟨printed, told⟩ := printed_is_committed
  constructor
  · have loaded : load system (Path.ofString "plan.yaml") = .ok config :=
      toOption_eq_some.mp (by decide +kernel)
    have counted : (config.settings.builder.compile system.resolver).result.toOption.map
        Policy.filterCount = some 22 := by
      decide +kernel
    obtain ⟨policy, found, count⟩ := Option.map_eq_some_iff.mp counted
    have nothing : (config.settings.builder.compile system.resolver).lookups = [] := by
      decide +kernel
    obtain ⟨⟨plan, _, _, shown, _⟩, commits⟩ :=
      printed system "plan.yaml" [] config policy loaded (toOption_eq_some.mp found)
    obtain ⟨contents, succeeds⟩ := commits table.resolver fun asked inside => by
      rw [nothing] at inside
      cases inside
    have started : World.Shared id [] [] world := .start {} () rfl
    have succeeded := succeeds started unarmed_empty .none none
    have committed :=
      contents started Memory.engine front_engine .none none Bool.false_ne_true succeeded
    unfold applied
    exact ⟨policy, shown, count, succeeded, committed⟩
  · have compiles : (Policy.compile system.resolver (blocking "10.0.0.1")).result.isOk = true := by
      decide +kernel
    have alike : (Policy.compile system.resolver (blocking "10.0.0.1")).result.toOption =
        (Policy.compile table.resolver (blocking "peer")).result.toOption := by
      decide +kernel
    obtain ⟨policy, compiled⟩ := exists_eq_ok compiles
    have compiled' : (Policy.compile table.resolver (blocking "peer")).result = .ok policy :=
      toOption_eq_some.mp (alike.symm.trans (toOption_eq_some.mpr compiled))
    exact ⟨policy, policy, compiled, compiled', rfl,
      told _ _ _ _ policy policy compiled compiled' rfl⟩

end Plan

end TrafficPolicy
