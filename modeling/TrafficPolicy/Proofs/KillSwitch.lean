import TrafficPolicy.KillSwitch
import TrafficPolicy.Proofs.Engine.TenantTables
import TrafficPolicy.Proofs.Install.StageTenancy
import TrafficPolicy.Proofs.Policy.Spelling

/-!
# Runs of a kill switch

A kill switch is alone with an engine in memory, behind any front of it, and its calls may fail in
any way.  After each call it is in one of two states.  `World.On` says that the policy of the
remembered settings is in force and is all that the engine holds; `World.Off` says that nothing is
remembered and the engine is empty.

The two are read off an invariant of the calls (`World.Sound`) that says what the kill switch has
as a tenant of the engine.
-/

namespace TrafficPolicy

open Memory

namespace World

variable {σ ρ : Type}

/-! ## The two states -/

/-- The policy of the settings is in force: it was compiled from them, and its filters are all that
the engine decides by. -/
structure On (view : σ → Memory) (resolver : Resolver) (settings : Settings)
    (vpnAddress : Option Address) (world : World σ SessionId ρ) : Prop where
  enabled : world.killSwitch.isEnabled = true
  wanted : settings.enableKillSwitch = true
  remembered : world.killSwitch.settings.any (·.same settings) = true
  address : world.killSwitch.vpnAddress = vpnAddress
  session : (view world.engine).sessions.length = 1
  filters : ∃ installed policy, world.killSwitch.active = some installed ∧
    (settings.builder.compile resolver).result = .ok policy ∧
    (view world.engine).filters.map (·.filter) = policy.filters ∧
    (view world.engine).filters.map (·.id) = installed.ids ∧
    ∀ stored ∈ (view world.engine).filters, stored.ns = installed.ns

/-- Nothing is in force and nothing is left of what was. -/
structure Off (view : σ → Memory) (world : World σ SessionId ρ) : Prop where
  disabled : world.killSwitch.isEnabled = false
  settings : world.killSwitch.settings = none
  address : world.killSwitch.vpnAddress = none
  filters : (view world.engine).filters = []
  providers : (view world.engine).providers = []
  sublayers : (view world.engine).sublayers = []
  sessions : (view world.engine).sessions = []

/-- What calls of a kill switch lead to from an engine that has just been made.  Between the calls
faults may be set and routes may change. -/
inductive Reachable (view : σ → Memory) (resolver : Resolver) : World σ SessionId ρ → Prop
  | start (options : InstallOptions) {state : σ} (routes : ρ) (empty : view state = {}) :
    Reachable view resolver ⟨{ options }, state, routes⟩
  | apply {outer : Engine σ SessionId} (front : Front outer view) (manager : RouteManager ρ)
    (settings : Settings) (vpnAddress : Option Address) {world : World σ SessionId ρ} :
    Reachable view resolver world →
    Reachable view resolver (world.apply outer manager resolver settings vpnAddress).2
  | stop {outer : Engine σ SessionId} (front : Front outer view) (manager : RouteManager ρ)
    {world : World σ SessionId ρ} :
    Reachable view resolver world → Reachable view resolver (world.stop outer manager).2
  | disturb {state : σ} (routes : ρ) {world : World σ SessionId ρ} :
    (view world.engine).Rearmed (view state) → Reachable view resolver world →
    Reachable view resolver { world with engine := state, routes }

/-! ## What the kill switch has in the engine -/

/-- No policy is in force. -/
structure Idle (view : σ → Memory) (world : World σ SessionId ρ) : Prop where
  active : world.killSwitch.active = none
  settings : world.killSwitch.settings = none
  hosts : Hosts {} [] (view world.engine)

/-- The policy of the remembered settings is in force. -/
structure Engaged (view : σ → Memory) (resolver : Resolver) (kept : Settings)
    (installed : Installed SessionId) (policy : Policy) (world : World σ SessionId ρ) : Prop where
  active : world.killSwitch.active = some installed
  settings : world.killSwitch.settings = some kept
  wanted : kept.enableKillSwitch = true
  compiled : (kept.builder.compile resolver).result = .ok policy
  complete : installed.Complete policy
  hosts : Hosts {} [installed.tenant policy] (view world.engine)

/-- What every call of a kill switch keeps. -/
def Sound (view : σ → Memory) (resolver : Resolver) (world : World σ SessionId ρ) : Prop :=
  (world.Idle view ∧ world.killSwitch.vpnAddress = none) ∨
    ∃ kept installed policy, world.Engaged view resolver kept installed policy

section States

variable {view : σ → Memory} {resolver : Resolver} {world : World σ SessionId ρ}

theorem Idle.off (idle : world.Idle view) (address : world.killSwitch.vpnAddress = none) :
    world.Off view := by
  have hosts := idle.hosts
  refine ⟨?_, idle.settings, address, ?_, ?_, ?_, ?_⟩
  · rw [KillSwitch.isEnabled, idle.active]
    rfl
  · exact hosts.perm_filters.eq_nil
  · exact hosts.perm_providers.eq_nil
  · exact hosts.perm_sublayers.eq_nil
  · refine List.eq_nil_iff_forall_not_mem.mpr fun session member => ?_
    rcases hosts.owned session member with old | ⟨tenant, inside, _⟩
    · cases old
    · cases inside

theorem Engaged.on {kept settings : Settings} {installed : Installed SessionId} {policy : Policy}
    (engaged : world.Engaged view resolver kept installed policy) (uniform : resolver.Uniform)
    (same : kept.same settings = true) :
    world.On view resolver settings world.killSwitch.vpnAddress := by
  obtain ⟨session, opened⟩ := Option.isSome_iff_exists.mp engaged.complete.1
  have hosts := engaged.hosts
  rw [Installed.tenant_of_session opened] at hosts
  have sessions := hosts.sessions_eq rfl
  have filters := hosts.filters_eq rfl
  obtain ⟨contents, numbers⟩ := @Namespace.map_stored installed.ns _ _ engaged.complete.2
  refine ⟨?_, ?_, ?_, rfl, ?_, installed, policy, engaged.active, ?_, ?_, ?_, ?_⟩
  · rw [KillSwitch.isEnabled, engaged.active]
    exact engaged.complete.1
  · rw [← Settings.enable_eq_of_same same]
    exact engaged.wanted
  · rw [engaged.settings]
    exact same
  · rw [sessions]
    rfl
  · exact Settings.compile_ok_of_same uniform same engaged.compiled
  · rw [filters]
    exact contents
  · rw [filters]
    exact numbers
  · rw [filters]
    exact fun stored => Namespace.ns_of_mem_stored

theorem Sound.on_or_off (uniform : resolver.Uniform) (sound : world.Sound view resolver) :
    (∃ kept, world.killSwitch.settings = some kept ∧
      world.On view resolver kept world.killSwitch.vpnAddress) ∨ world.Off view := by
  rcases sound with ⟨idle, address⟩ | ⟨kept, installed, policy, engaged⟩
  · exact Or.inr (idle.off address)
  · exact Or.inl ⟨kept, engaged.settings, engaged.on uniform (Settings.same_self kept)⟩

/-- The two states exclude each other. -/
theorem On.not_off {settings : Settings} {vpnAddress : Option Address}
    (on : world.On view resolver settings vpnAddress) : ¬ world.Off view := by
  intro off
  have both := on.enabled
  rw [off.disabled] at both
  cases both

/-! ## What the calls are made of -/

variable {outer : Engine σ SessionId} (manager : RouteManager ρ)

/-- Moving the routes changes nothing of the rest. -/
theorem exists_moveRoutes_eq (target : Option Address) (world : World σ SessionId ρ) :
    ∃ routes, world.moveRoutes manager target =
      ⟨{ world.killSwitch with vpnAddress := target }, world.engine, routes⟩ := by
  unfold moveRoutes
  split
  next same =>
    subst same
    exact ⟨world.routes, rfl⟩
  next => exact ⟨_, rfl⟩

theorem Idle.moveRoutes (idle : world.Idle view) (target : Option Address) :
    (world.moveRoutes manager target).Idle view := by
  obtain ⟨routes, eq⟩ := exists_moveRoutes_eq manager target world
  rw [eq]
  exact ⟨idle.active, idle.settings, idle.hosts⟩

/-- No policy is in force, or that of the remembered settings is. -/
def Steady (view : σ → Memory) (resolver : Resolver) (world : World σ SessionId ρ) : Prop :=
  world.Idle view ∨ ∃ kept installed policy, world.Engaged view resolver kept installed policy

theorem Steady.moveRoutes (steady : world.Steady view resolver) (target : Option Address) :
    (world.moveRoutes manager target).Steady view resolver := by
  obtain ⟨routes, eq⟩ := exists_moveRoutes_eq manager target world
  rw [eq]
  rcases steady with idle | ⟨kept, installed, policy, engaged⟩
  · exact Or.inl ⟨idle.active, idle.settings, idle.hosts⟩
  · exact Or.inr ⟨kept, installed, policy, engaged.active, engaged.settings, engaged.wanted,
      engaged.compiled, engaged.complete, engaged.hosts⟩

/-- After a teardown nothing is in force, whatever the engine answered. -/
theorem Steady.teardown (steady : world.Steady view resolver) (front : Front outer view) :
    (world.teardown outer).2.Idle view ∧
      (world.teardown outer).2.killSwitch.vpnAddress = world.killSwitch.vpnAddress := by
  rcases steady with idle | ⟨kept, installed, policy, engaged⟩
  · rw [World.teardown, idle.active]
    exact ⟨⟨rfl, rfl, idle.hosts⟩, rfl⟩
  · rw [World.teardown, engaged.active]
    exact ⟨⟨rfl, rfl, installed.teardown_hosts front engaged.hosts⟩, rfl⟩

/-- After a failed swap nothing is in force; after another one only the new policy is. -/
theorem Steady.swap (steady : world.Steady view resolver) (front : Front outer view)
    (policy : Policy) :
    (∃ error next, world.swap outer policy = (.error error, next) ∧ next.Idle view) ∨
    ∃ installed next, world.swap outer policy = (.ok installed, next) ∧
      installed.Complete policy ∧ Hosts {} [installed.tenant policy] (view next.engine) := by
  have torn := (steady.teardown front).1
  rw [World.swap]
  rcases ended : world.teardown outer with ⟨error | _, next⟩ <;> rw [ended] at torn
  · exact Or.inl ⟨error, next, rfl, torn⟩
  · rcases policy.install_hosts front next.killSwitch.options torn.hosts with
      ⟨error, state, eq, hosts⟩ | ⟨installed, state, eq, complete, hosts⟩
    · refine Or.inl ⟨error, { next with engine := state }, ?_, torn.active, torn.settings, hosts⟩
      simp only [eq]
    · refine Or.inr ⟨installed, { next with engine := state }, ?_, complete, hosts⟩
      simp only [eq]

theorem Steady.stop (steady : world.Steady view resolver) (front : Front outer view) :
    (world.stop outer manager).2.Idle view ∧
      (world.stop outer manager).2.killSwitch.vpnAddress = none := by
  obtain ⟨idle, address⟩ := (steady.moveRoutes manager none).teardown front
  obtain ⟨routes, eq⟩ := exists_moveRoutes_eq manager none world
  refine ⟨idle, address.trans ?_⟩
  rw [eq]

/-- What an application of settings comes to: nothing changes, because the settings are in force
already or do not compile; nothing is in force; or the policy of the settings is. -/
theorem Steady.apply (steady : world.Steady view resolver) (front : Front outer view)
    (settings : Settings) (vpnAddress : Option Address) :
    let outcome := world.apply outer manager resolver settings vpnAddress
    (outcome.2 = world ∧ world.killSwitch.isEnabled = true ∧
        world.killSwitch.remembers settings vpnAddress = true) ∨
      (∃ error, outcome.1.result = .error error ∧ settings.enableKillSwitch = true ∧
        outcome.2 = world) ∨
      (outcome.2.Idle view ∧ outcome.2.killSwitch.vpnAddress = none ∧
        (settings.enableKillSwitch = true → ∃ error, outcome.1.result = .error error)) ∨
      (outcome.1.result = .ok () ∧ outcome.2.killSwitch.vpnAddress = vpnAddress ∧
        ∃ installed policy, outcome.2.Engaged view resolver settings installed policy) := by
  intro outcome
  unfold outcome World.apply
  by_cases unchanged : (world.killSwitch.isEnabled &&
      world.killSwitch.remembers settings vpnAddress) = true
  · rw [if_pos unchanged]
    rw [Bool.and_eq_true] at unchanged
    exact Or.inl ⟨rfl, unchanged⟩
  rw [if_neg unchanged]
  cases enabled : settings.enableKillSwitch with
  | false =>
    have stopped := steady.stop manager front
    exact Or.inr (Or.inr (Or.inl ⟨stopped.1, stopped.2, fun on => by cases on⟩))
  | true =>
    simp only [Bool.not_true, Bool.false_eq_true, if_false]
    cases compiled : (settings.builder.compile resolver).result with
    | error error => exact Or.inr (Or.inl ⟨error, rfl, trivial, rfl⟩)
    | ok policy =>
      rcases steady.swap front policy with
        ⟨error, next, eq, idle⟩ | ⟨installed, next, eq, complete, hosts⟩
      · simp only [eq]
        obtain ⟨routes, moved⟩ := exists_moveRoutes_eq manager none next
        refine Or.inr (Or.inr (Or.inl ⟨idle.moveRoutes manager none, ?_, fun _ => ⟨error, rfl⟩⟩))
        rw [moved]
      · simp only [eq]
        let killSwitch :=
          { next.killSwitch with active := some installed, settings := some settings }
        obtain ⟨routes, moved⟩ :=
          exists_moveRoutes_eq manager vpnAddress { next with killSwitch }
        rw [moved]
        exact Or.inr (Or.inr (Or.inr
          ⟨trivial, rfl, installed, policy, rfl, rfl, enabled, compiled, complete, hosts⟩))

theorem Sound.steady (sound : world.Sound view resolver) : world.Steady view resolver :=
  sound.imp_left And.left

theorem Reachable.sound (reachable : Reachable view resolver world) :
    world.Sound view resolver := by
  induction reachable with
  | start options routes empty =>
    refine Or.inl ⟨⟨rfl, rfl, ?_⟩, rfl⟩
    rw [show view _ = {} from empty]
    exact sound_empty.hosts_nil
  | apply front manager settings vpnAddress _ ih =>
    rcases ih.steady.apply manager front settings vpnAddress with
      ⟨same, _⟩ | ⟨_, _, _, same⟩ | ⟨idle, address, _⟩ | ⟨_, _, installed, policy, engaged⟩
    · rw [same]
      exact ih
    · rw [same]
      exact ih
    · exact Or.inl ⟨idle, address⟩
    · exact Or.inr ⟨settings, installed, policy, engaged⟩
  | stop front manager _ ih => exact Or.inl (ih.steady.stop manager front)
  | disturb routes armed _ ih =>
    rcases ih with ⟨idle, address⟩ | ⟨kept, installed, policy, engaged⟩
    · exact Or.inl ⟨⟨idle.active, idle.settings, idle.hosts.rearmed armed⟩, address⟩
    · exact Or.inr ⟨kept, installed, policy, engaged.active, engaged.settings, engaged.wanted,
        engaged.compiled, engaged.complete, engaged.hosts.rearmed armed⟩

/-- Settings that are remembered are in force, in any spelling of their paths. -/
theorem Sound.on_of_remembers (sound : world.Sound view resolver) (uniform : resolver.Uniform)
    {settings : Settings} {vpnAddress : Option Address}
    (enabled : world.killSwitch.isEnabled = true)
    (remembers : world.killSwitch.remembers settings vpnAddress = true) :
    world.On view resolver settings vpnAddress := by
  rw [KillSwitch.remembers, Bool.and_eq_true, decide_eq_true_eq] at remembers
  obtain ⟨same, address⟩ := remembers
  rcases sound with ⟨idle, _⟩ | ⟨kept, installed, policy, engaged⟩
  · rw [KillSwitch.isEnabled, idle.active] at enabled
    cases enabled
  · rw [engaged.settings] at same
    exact address ▸ engaged.on uniform same

/-- Whatever fails, after each call the kill switch is in one of two states, and never in both:
the policy of the remembered settings is in force and nothing else is, or nothing is at all.  A
call that succeeds leads to the state that was asked for. -/
theorem on_xor_off_of_reachable (uniform : resolver.Uniform)
    (reachable : Reachable view resolver world) :
    (((∃ kept, world.killSwitch.settings = some kept ∧
          world.On view resolver kept world.killSwitch.vpnAddress) ∧ ¬ world.Off view) ∨
        (world.Off view ∧ ∀ kept vpnAddress, ¬ world.On view resolver kept vpnAddress)) ∧
      ∀ (outer : Engine σ SessionId) (manager : RouteManager ρ), Front outer view →
        (∀ settings vpnAddress,
          let outcome := world.apply outer manager resolver settings vpnAddress
          (settings.enableKillSwitch = true → outcome.1.result = .ok () →
            outcome.2.On view resolver settings vpnAddress) ∧
          (settings.enableKillSwitch = false → outcome.2.Off view) ∧
          ∀ error, outcome.1.result = .error error → outcome.2 = world ∨ outcome.2.Off view) ∧
        (world.stop outer manager).2.Off view := by
  have sound := reachable.sound
  refine ⟨?_, fun outer manager front => ⟨fun settings vpnAddress => ?_, ?_⟩⟩
  · rcases sound.on_or_off uniform with ⟨kept, remembered, on⟩ | off
    · exact Or.inl ⟨⟨kept, remembered, on⟩, on.not_off⟩
    · exact Or.inr ⟨off, fun _ _ on => on.not_off off⟩
  · intro outcome
    rcases sound.steady.apply manager front settings vpnAddress with
      ⟨same, enabled, remembers⟩ | ⟨error, failed, wanted, same⟩ | ⟨idle, address, fails⟩ |
      ⟨succeeded, address, installed, policy, engaged⟩
    · have on := sound.on_of_remembers uniform enabled remembers
      refine ⟨fun _ _ => ?_, fun unwanted => ?_, fun _ _ => Or.inl same⟩
      · rw [same]
        exact on
      · rw [on.wanted] at unwanted
        cases unwanted
    · refine ⟨fun _ succeeded => ?_, fun unwanted => ?_, fun _ _ => Or.inl same⟩
      · rw [failed] at succeeded
        cases succeeded
      · rw [wanted] at unwanted
        cases unwanted
    · have off := idle.off address
      refine ⟨fun wanted succeeded => ?_, fun _ => off, fun _ _ => Or.inr off⟩
      obtain ⟨error, failed⟩ := fails wanted
      rw [failed] at succeeded
      cases succeeded
    · have on := engaged.on uniform settings.same_self
      rw [address] at on
      refine ⟨fun _ _ => on, fun unwanted => ?_, fun error failed => ?_⟩
      · rw [engaged.wanted] at unwanted
        cases unwanted
      · rw [succeeded] at failed
        cases failed
  · have stopped := sound.steady.stop manager front
    exact stopped.1.off stopped.2

theorem on_after_first_apply :
    (World.apply Memory.engine .none ({} : LookupTable).resolver { enableKillSwitch := true } none
      (⟨{}, {}, ()⟩ : World Memory SessionId Unit)).2.On id ({} : LookupTable).resolver
        { enableKillSwitch := true } none := by
  have reachable : Reachable id ({} : LookupTable).resolver
      (⟨{}, {}, ()⟩ : World Memory SessionId Unit) := .start {} () rfl
  have calls := (on_xor_off_of_reachable (LookupTable.uniform {}) reachable).2
  have applied := (calls Memory.engine .none front_engine).1 { enableKillSwitch := true } none
  refine applied.1 rfl ?_
  decide +kernel

end States

end World

end TrafficPolicy
