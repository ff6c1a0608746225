import TrafficPolicy.Proofs.Engine.Company
import TrafficPolicy.Proofs.KillSwitch
import TrafficPolicy.Proofs.KillSwitch.Applied

/-!
# Applications that fail

A kill switch may share its engine with others, who have sessions of their own there and do with
them what they like.  `World.Shared` says what its calls and theirs lead to, and keeps account of
what the others opened and were granted.

An application of settings that fails does so in one of two ways (`apply_error_cases`).  Either
the settings could not be compiled, and then nothing was done at all.  Or the engine failed, and
then the kill switch has given up all that it had: what the engine still holds is theirs.
-/

namespace TrafficPolicy

namespace Memory

variable {σ : Type} {outer : Engine σ SessionId} {view : σ → Memory} {others : List SessionId}
  {theirs : List (SessionId × Write)} {id : SessionId} {state : σ}

theorem Front.drop_beside (front : Front outer view)
    (beside : Beside others theirs (some id) (view state)) :
    Beside others theirs none (view (outer.drop id state)) := by
  obtain ⟨armed, rearmed, same⟩ := front.drop id state
  rw [same]
  exact (beside.rearmed rearmed).close

/-- Whether the close of a session is refused on its way or not, the session still belongs to the
user. -/
theorem Front.close_beside (front : Front outer view)
    (beside : Beside others theirs (some id) (view state)) :
    Beside others theirs (some id) (view (outer.call id .close state).2) := by
  obtain ⟨armed, rearmed, relayed⟩ := front.call id .close state
  have beside := beside.rearmed rearmed
  rcases relayed with ⟨error, _, same⟩ | ⟨_, same⟩
  · exact same ▸ beside
  · obtain ⟨apart, drawn⟩ := beside.number_apart id rfl
    have grows := grows_call armed id .close
    exact same ▸ beside.close.hold apart (Nat.le_trans drawn grows.lastSession)

end Memory

open Memory

namespace World

variable {σ ρ : Type}

/-- What calls of a kill switch and of others lead to from an engine that has just been made.  The
sessions of the others are `others`, and `theirs` is what they were granted. -/
inductive Shared (view : σ → Memory) :
    List SessionId → List (SessionId × Write) → World σ SessionId ρ → Prop
  | start (options : InstallOptions) {state : σ} (routes : ρ) (empty : view state = {}) :
    Shared view [] [] ⟨{ options }, state, routes⟩
  | apply {outer : Engine σ SessionId} (front : Front outer view) (manager : RouteManager ρ)
    (resolver : Resolver) (settings : Settings) (vpnAddress : Option Address)
    {others : List SessionId} {theirs : List (SessionId × Write)} {world : World σ SessionId ρ} :
    Shared view others theirs world →
    Shared view others theirs (world.apply outer manager resolver settings vpnAddress).2
  | stop {outer : Engine σ SessionId} (front : Front outer view) (manager : RouteManager ρ)
    {others : List SessionId} {theirs : List (SessionId × Write)} {world : World σ SessionId ρ} :
    Shared view others theirs world → Shared view others theirs (world.stop outer manager).2
  /-- Faults are asked for, and routes change. -/
  | disturb {state : σ} (routes : ρ) {others : List SessionId}
    {theirs : List (SessionId × Write)} {world : World σ SessionId ρ} :
    (view world.engine).Rearmed (view state) → Shared view others theirs world →
    Shared view others theirs { world with engine := state, routes }
  /-- Another user opens a session. -/
  | opened {state : σ} {others : List SessionId} {theirs : List (SessionId × Write)}
    {world : World σ SessionId ρ} :
    view state = (view world.engine).openSession.2 → Shared view others theirs world →
    Shared view (((view world.engine).lastSession + 1) :: others) theirs
      { world with engine := state }
  /-- Another user makes a call on its session, or drops it, which closes it. -/
  | called {state : σ} {id : SessionId} (call : Call) {others : List SessionId}
    {theirs : List (SessionId × Write)} {world : World σ SessionId ρ} :
    id ∈ others → view state = (Memory.call id call (view world.engine)).2 →
    Shared view others theirs world →
    Shared view others
      (theirs ++ ((call.granted (Memory.call id call (view world.engine)).1).map (id, ·)).toList)
      { world with engine := state }

/-- The kill switch has no policy in force, and the engine holds only what is theirs. -/
structure Vacant (view : σ → Memory) (others : List SessionId)
    (theirs : List (SessionId × Write)) (world : World σ SessionId ρ) : Prop where
  active : world.killSwitch.active = none
  settings : world.killSwitch.settings = none
  beside : Beside others theirs none (view world.engine)

/-- The kill switch has a policy in force, with a session of its own. -/
def Occupied (view : σ → Memory) (others : List SessionId)
    (theirs : List (SessionId × Write)) (world : World σ SessionId ρ) : Prop :=
  ∃ installed id, world.killSwitch.active = some installed ∧ installed.session = some id ∧
    Beside others theirs (some id) (view world.engine)

/-- What every call of a kill switch keeps, and every call of others. -/
def Parted (view : σ → Memory) (others : List SessionId) (theirs : List (SessionId × Write))
    (world : World σ SessionId ρ) : Prop :=
  (world.Vacant view others theirs ∧ world.killSwitch.vpnAddress = none) ∨
    world.Occupied view others theirs

section Failing

variable {view : σ → Memory} {others : List SessionId} {theirs : List (SessionId × Write)}
  {world : World σ SessionId ρ} {outer : Engine σ SessionId} (manager : RouteManager ρ)

theorem Vacant.moveRoutes (vacant : world.Vacant view others theirs) (target : Option Address) :
    (world.moveRoutes manager target).Vacant view others theirs := by
  obtain ⟨routes, eq⟩ := exists_moveRoutes_eq manager target world
  rw [eq]
  exact ⟨vacant.active, vacant.settings, vacant.beside⟩

theorem Occupied.moveRoutes (occupied : world.Occupied view others theirs)
    (target : Option Address) : (world.moveRoutes manager target).Occupied view others theirs := by
  obtain ⟨routes, eq⟩ := exists_moveRoutes_eq manager target world
  rw [eq]
  exact occupied

/-- After a teardown the kill switch has nothing, whatever the engine answered. -/
theorem vacant_teardown (front : Front outer view)
    (held : world.Vacant view others theirs ∨ world.Occupied view others theirs) :
    (world.teardown outer).2.Vacant view others theirs := by
  rcases held with vacant | ⟨installed, id, active, session, beside⟩
  · rw [World.teardown, vacant.active]
    exact ⟨rfl, rfl, vacant.beside⟩
  · rw [World.teardown, active]
    refine ⟨rfl, rfl, ?_⟩
    change Beside others theirs none (view (installed.teardown outer world.engine).2.2)
    rw [Installed.teardown_state outer session]
    exact front.drop_beside (front.close_beside beside)

/-- After a failed swap the kill switch has nothing; after another one it has the whole new policy,
beside what the engine held when the old one was gone. -/
theorem swap_hosts (front : Front outer view)
    (held : world.Vacant view others theirs ∨ world.Occupied view others theirs)
    (policy : Policy) :
    (∃ error next, world.swap outer policy = (.error error, next) ∧
      next.Vacant view others theirs) ∨
    ∃ installed between next, world.swap outer policy = (.ok installed, next) ∧
      installed.Complete policy ∧ Beside others theirs none between ∧
      Hosts between [installed.tenant policy] (view next.engine) := by
  have torn := vacant_teardown front held
  rw [World.swap]
  rcases ended : world.teardown outer with ⟨error | _, between⟩ <;> rw [ended] at torn
  · exact Or.inl ⟨error, between, rfl, torn⟩
  · rcases policy.install_hosts front between.killSwitch.options torn.beside.sound.hosts_nil with
      ⟨error, state, eq, hosts⟩ | ⟨installed, state, eq, complete, hosts⟩
    · refine Or.inl ⟨error, { between with engine := state }, ?_, torn.active, torn.settings, ?_⟩
      · simp only [eq]
      · exact torn.beside.of_hosts (hosts_absent.mpr hosts)
    · refine Or.inr ⟨installed, _, { between with engine := state }, ?_, complete, torn.beside,
        hosts⟩
      simp only [eq]

/-- After a failed swap the kill switch has nothing; after another one it has the new policy. -/
theorem swap_cases (front : Front outer view)
    (held : world.Vacant view others theirs ∨ world.Occupied view others theirs)
    (policy : Policy) :
    (∃ error next, world.swap outer policy = (.error error, next) ∧
      next.Vacant view others theirs) ∨
    ∃ installed id next, world.swap outer policy = (.ok installed, next) ∧
      installed.session = some id ∧ Beside others theirs (some id) (view next.engine) := by
  refine (swap_hosts front held policy).imp_right ?_
  rintro ⟨installed, between, next, eq, complete, beside, hosts⟩
  obtain ⟨id, session⟩ := Option.isSome_iff_exists.mp complete.1
  rw [Installed.tenant_of_session session] at hosts
  exact ⟨installed, id, next, eq, session, beside.of_hosts hosts⟩

/-- A kill switch that is stopped has nothing, whatever the engine answered. -/
theorem vacant_stop (front : Front outer view) (parted : world.Parted view others theirs) :
    (world.stop outer manager).2.Vacant view others theirs ∧
      (world.stop outer manager).2.killSwitch.vpnAddress = none := by
  have held := parted.imp (fun vacant => vacant.1.moveRoutes manager none)
    fun occupied => occupied.moveRoutes manager none
  refine ⟨vacant_teardown front held, ?_⟩
  obtain ⟨routes, eq⟩ := exists_moveRoutes_eq manager none world
  rw [World.stop, eq, World.teardown]
  dsimp only
  cases world.killSwitch.active <;> rfl

/-- What an application comes to: the settings are in force already or do not compile, and nothing
changes; or the kill switch has nothing any more; or it has the new policy. -/
theorem Parted.apply (parted : world.Parted view others theirs) (front : Front outer view)
    (resolver : Resolver) (settings : Settings) (vpnAddress : Option Address) :
    let outcome := world.apply outer manager resolver settings vpnAddress
    (outcome.1.result = .ok () ∧ outcome.2 = world) ∨
      (∃ error, (settings.builder.compile resolver).result = .error error ∧
        ∀ engine manager, world.apply engine manager resolver settings vpnAddress =
          (⟨(settings.builder.compile resolver).lookups, .error error⟩, world)) ∨
      (outcome.2.Vacant view others theirs ∧ outcome.2.killSwitch.vpnAddress = none) ∨
      (outcome.1.result = .ok () ∧ outcome.2.Occupied view others theirs) := by
  intro outcome
  have went := applied outer manager resolver settings vpnAddress world
  have held := parted.imp_left And.left
  change Applied _ _ _ _ _ _ outcome.1 outcome.2 at went
  generalize outcome.1 = result at went ⊢
  generalize outcome.2 = final at went ⊢
  cases went with
  | kept current => exact Or.inl ⟨rfl, rfl⟩
  | stopped fresh unwanted => exact Or.inr (Or.inr (Or.inl (vacant_stop manager front parted)))
  | uncompiled fresh wanted refused untouched => exact Or.inr (Or.inl ⟨_, refused, untouched⟩)
  | @failed fresh _ policy compiled error next swapped =>
    rcases swap_cases front held policy with ⟨_, _, eq, vacant⟩ | ⟨_, _, _, eq, _⟩
    · rw [swapped] at eq
      cases eq
      obtain ⟨routes, moved⟩ := exists_moveRoutes_eq manager none next
      refine Or.inr (Or.inr (Or.inl ⟨vacant.moveRoutes manager none, ?_⟩))
      rw [moved]
    · rw [swapped] at eq
      cases eq
  | @installed fresh _ policy compiled installed next swapped =>
    rcases swap_cases front held policy with ⟨_, _, eq, _⟩ | ⟨_, id, _, eq, session, beside⟩
    · rw [swapped] at eq
      cases eq
    · rw [swapped] at eq
      cases eq
      have occupied : World.Occupied view others theirs { next with
          killSwitch := { next.killSwitch with
            active := some installed, settings := some settings } } :=
        ⟨installed, id, rfl, session, beside⟩
      exact Or.inr (Or.inr (Or.inr ⟨rfl, occupied.moveRoutes manager vpnAddress⟩))

/-- What happens to the engine alone changes nothing for the kill switch if it changes nothing of
what is its own. -/
theorem Parted.engine {later : List SessionId} {granted : List (SessionId × Write)} {state : σ}
    (parted : world.Parted view others theirs) (routes : ρ)
    (keeps : ∀ {number}, Beside others theirs number (view world.engine) →
      Beside later granted number (view state)) :
    World.Parted view later granted { world with engine := state, routes } :=
  parted.imp
    (fun ⟨vacant, address⟩ => ⟨⟨vacant.active, vacant.settings, keeps vacant.beside⟩, address⟩)
    fun ⟨installed, id, active, session, beside⟩ => ⟨installed, id, active, session, keeps beside⟩

theorem Shared.parted (shared : Shared view others theirs world) :
    world.Parted view others theirs := by
  induction shared with
  | @start options state routes empty =>
    refine Or.inl ⟨⟨rfl, rfl, ?_⟩, rfl⟩
    change Beside [] [] none (view state)
    exact empty ▸ beside_empty
  | apply front manager resolver settings vpnAddress _ ih =>
    rcases ih.apply manager front resolver settings vpnAddress with
      ⟨_, same⟩ | ⟨_, _, untouched⟩ | vacant | ⟨_, occupied⟩
    · rw [same]
      exact ih
    · rw [untouched]
      exact ih
    · exact Or.inl vacant
    · exact Or.inr occupied
  | stop front manager _ ih => exact Or.inl (vacant_stop manager front ih)
  | disturb routes armed _ ih => exact ih.engine routes fun beside => beside.rearmed armed
  | @opened state others theirs world same _ ih =>
    exact ih.engine world.routes fun beside => same ▸ beside.openSession
  | @called state id call others theirs world other same _ ih =>
    exact ih.engine world.routes fun beside => same ▸ beside.call other call

/-- There is nothing to stop where nothing is in force, and no call is made. -/
theorem Vacant.stop_eq (vacant : world.Vacant view others theirs)
    (address : world.killSwitch.vpnAddress = none) (engine : Engine σ SessionId) :
    world.stop engine manager = (.ok (), world) :=
  stop_of_cleared ⟨vacant.active, vacant.settings, address⟩ engine manager

/-- An application that fails does so in one of two ways.  Either the settings do not compile:
that is its error, and with any engine and any routes it leaves the world as it was.  Or nothing is
in force any more and nothing remembered, all that the engine still holds belongs to others, and
stopping the kill switch then succeeds and does nothing with any engine and any routes. -/
theorem apply_error_cases (shared : Shared view others theirs world) (front : Front outer view)
    (resolver : Resolver) (settings : Settings) (vpnAddress : Option Address)
    {error : PolicyError} (failed :
      (world.apply outer manager resolver settings vpnAddress).1.result = .error error) :
    ((settings.builder.compile resolver).result = .error error ∧
        ∀ engine manager, world.apply engine manager resolver settings vpnAddress =
          (⟨(settings.builder.compile resolver).lookups, .error error⟩, world)) ∨
      let next := (world.apply outer manager resolver settings vpnAddress).2
      next.killSwitch.isEnabled = false ∧ next.killSwitch.settings = none ∧
        next.killSwitch.vpnAddress = none ∧
        (∀ session ∈ (view next.engine).sessions, session.id ∈ others) ∧
        (∀ write ∈ (view next.engine).registered, ∃ id ∈ others, (id, write) ∈ theirs) ∧
        ∀ engine manager, next.stop engine manager = (.ok (), next) := by
  rcases shared.parted.apply manager front resolver settings vpnAddress with
    ⟨succeeded, _⟩ | ⟨_, refused, untouched⟩ | ⟨vacant, address⟩ | ⟨succeeded, _⟩
  · rw [failed] at succeeded
    cases succeeded
  · rw [untouched] at failed
    cases failed
    exact Or.inl ⟨refused, untouched⟩
  · obtain ⟨sessions, registered⟩ := vacant.beside.all_theirs
    refine Or.inr ⟨?_, vacant.settings, address, sessions, registered,
      fun engine manager => vacant.stop_eq manager address engine⟩
    rw [KillSwitch.isEnabled, vacant.active]
    rfl
  · rw [failed] at succeeded
    cases succeeded

/-- The old policy cannot be taken out of force, and still all that is left is the provider of
another user. -/
theorem apply_refused_beside_other :
    let shared : World Memory SessionId Unit :=
      ⟨{}, (Memory.call 1 (.addProvider "other" "") ({} : Memory).openSession.2).2, ()⟩
    let resolver := ({} : LookupTable).resolver
    let on := (shared.apply Memory.engine .none resolver { enableKillSwitch := true } none).2
    let refusal : EngineError := ⟨5, "refused"⟩
    let failed := on.apply (Memory.engine.refusing refusal) .none resolver
      { enableKillSwitch := true, allowLan := false } none
    failed.1.result = .error (.install "close_session" refusal) ∧
      on.killSwitch.isEnabled = true ∧ failed.2.killSwitch.isEnabled = false ∧
      (∀ session ∈ failed.2.engine.sessions, session.id ∈ [1]) ∧
      ∀ write ∈ failed.2.engine.registered,
        ∃ id ∈ [1], (id, write) ∈ [(1, Write.provider (Key.draw 0))] := by
  intro shared resolver on refusal failed
  let started : World Memory SessionId Unit := ⟨{}, {}, ()⟩
  let opened : World Memory SessionId Unit := { started with engine := ({} : Memory).openSession.2 }
  have other : Shared id [1] [] opened :=
    @Shared.opened _ _ id opened.engine [] [] started rfl (.start {} () rfl)
  have reached : Shared id [1] [(1, .provider (Key.draw 0))] shared :=
    @Shared.called _ _ id shared.engine 1 (.addProvider "other" "") [1] [] opened
      List.mem_cons_self rfl other
  have applied : Shared id [1] [(1, .provider (Key.draw 0))] on :=
    .apply front_engine .none resolver { enableKillSwitch := true } none reached
  have error : (on.apply (Memory.engine.refusing refusal) .none resolver
      { enableKillSwitch := true, allowLan := false } none).1.result =
        .error (.install "close_session" refusal) := by
    decide +kernel
  have enabled : on.killSwitch.isEnabled = true := by
    decide +kernel
  have compiled : (Settings.builder { enableKillSwitch := true, allowLan := false } |>.compile
      resolver).result.isOk = true := by
    decide +kernel
  rcases apply_error_cases .none applied (front_refusing refusal) resolver
    { enableKillSwitch := true, allowLan := false } none error
    with ⟨refused, _⟩ | ⟨disabled, _, _, sessions, registered, _⟩
  · rw [refused] at compiled
    cases compiled
  · rw [id_eq] at sessions registered
    unfold failed
    exact ⟨error, enabled, disabled, sessions, registered⟩

end Failing

end World

end TrafficPolicy
