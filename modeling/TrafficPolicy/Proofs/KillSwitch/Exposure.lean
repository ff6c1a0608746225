import TrafficPolicy.Proofs.KillSwitch.Failure
import TrafficPolicy.Proofs.KillSwitch.Recorded

/-!
# What is in force while settings are applied

A kill switch that is alone with its engine never leaves more open than it must while it goes from
one policy to another.  All lookups are made while the old policy is still in force.  From the
first call on the engine to the last the filters in force are those of the old policy, then none,
and then those of the new one: no call shows a part of a policy, or filters of both.

The journal of `Application.advance` is followed turn by turn for that (`Exposed.advance`), for
every way in which calls can fail.  What the journal says of the calls is what a record beside the
engine says of them.
-/

namespace TrafficPolicy

open Memory

/-- A journal of lookups that saw the old filters, and of calls that saw the old filters, then
none, and then the new ones. -/
def staged (lookups : List Lookup) (old : List Stored) (a b c : Nat) (new : List Stored) :
    List (Moment (List Stored)) :=
  lookups.map (fun asked => .lookup asked old) ++
    (List.replicate a old ++ List.replicate b [] ++ List.replicate c new).map .call

section Staged

variable {lookups more : List Lookup} {old new next : List Stored} {a b : Nat}

theorem staged_lookups :
    staged lookups old 0 0 0 new ++ more.map (fun asked => .lookup asked old) =
      staged (lookups ++ more) old 0 0 0 new := by
  simp [staged]

theorem staged_old : staged lookups old a 0 0 new ++ [.call old] =
    staged lookups old (a + 1) 0 0 next := by
  simp [staged, List.replicate_succ']

theorem staged_none : staged lookups old a b 0 new ++ [.call []] =
    staged lookups old a (b + 1) 0 next := by
  simp [staged, List.replicate_succ']

theorem staged_new : staged lookups old a b 0 new ++ [.call next] =
    staged lookups old a b 1 next := by
  simp [staged]

theorem lookups_staged (a b c : Nat) :
    (staged lookups old a b c new).filterMap Moment.lookup? = lookups := by
  have asked : lookups.filterMap (Moment.lookup? ∘ fun asked => Moment.lookup asked old) =
      lookups.filterMap some := rfl
  have called : ∀ seen : List (List Stored), (seen.map Moment.call).filterMap Moment.lookup? = [] :=
    fun seen => List.filterMap_eq_nil_iff.mpr fun moment member => by
      obtain ⟨filters, _, rfl⟩ := List.mem_map.mp member
      rfl
  rw [staged, List.filterMap_append, called, List.filterMap_map, asked, List.filterMap_some,
    List.append_nil]

theorem seen_staged (a b c : Nat) :
    (staged lookups old a b c new).filterMap Moment.seen? =
      List.replicate a old ++ List.replicate b [] ++ List.replicate c new := by
  have called : ∀ seen : List (List Stored), (seen.map Moment.call).filterMap Moment.seen? = seen :=
    fun seen => by
      have each : Moment.seen? ∘ Moment.call = (some : List Stored → _) := rfl
      rw [List.filterMap_map, each, List.filterMap_some]
  have asked := Application.seen_lookups [] lookups old
  rw [List.nil_append, List.filterMap_nil] at asked
  rw [staged, List.filterMap_append, asked, called, List.nil_append]

end Staged

/-- The filters are those of an installed policy: all of them, in their order, under its
namespace. -/
structure Installed.Shows (policy : Policy) (installed : Installed SessionId)
    (filters : List Stored) : Prop where
  contents : filters.map (·.filter) = policy.filters
  numbers : filters.map (·.id) = installed.ids
  under : ∀ stored ∈ filters, stored.ns = installed.ns

theorem Installed.Complete.shows {policy : Policy} {installed : Installed SessionId}
    (complete : installed.Complete policy) :
    installed.Shows policy (installed.tenant policy).filters := by
  obtain ⟨session, opened⟩ := Option.isSome_iff_exists.mp complete.1
  obtain ⟨contents, numbers⟩ := @Namespace.map_stored installed.ns _ _ complete.2
  rw [Installed.tenant_of_session opened]
  exact ⟨contents, numbers, fun stored => Namespace.ns_of_mem_stored⟩

namespace Application

variable {σ ρ : Type} (application : Application σ SessionId ρ (List Stored))

/-- A policy that is to be installed is the one of the settings. -/
def Compiles (policy : Policy) : Prop :=
  (application.settings.builder.compile application.resolver).result = .ok policy

/-- What a turn has in the engine, and how often the new filters were seen by then. -/
def Fits (old tenant : Tenant) (world : World σ SessionId ρ) (a b c : Nat) :
    Turn SessionId → Prop
  | .compiling done rest =>
    tenant = old ∧ a = 0 ∧ b = 0 ∧ c = 0 ∧
      world.killSwitch.active.bind (·.session) = old.number? ∧
      ∀ more, (Policy.compileAll application.resolver rest).result = .ok more →
        application.Compiles ⟨done ++ more⟩
  | .closing session next =>
    tenant = old ∧ a = 0 ∧ b = 0 ∧ c = 0 ∧ old.number? = some session ∧
      ∀ policy, next = some policy → application.Compiles policy
  | .leaving session _ next =>
    c = 0 ∧ tenant.number? = some session ∧
      ∀ policy, next = some policy → application.Compiles policy
  | .installing policy stage =>
    tenant = stage.tenant policy ∧ stage.Consistent policy ∧ application.Compiles policy ∧
      (c ≠ 0 → ∃ installed, stage = .finished (.ok installed))
  | .finished _ =>
    c ≠ 0 → ∃ installed policy, world.killSwitch.active = some installed ∧
      tenant = installed.tenant policy ∧ installed.Complete policy ∧ application.Compiles policy

/-- What holds at every turn of an application that starts with what `old` has. -/
def Exposed (view : σ → Memory) (old : Tenant)
    (progress : Progress σ SessionId ρ (List Stored)) : Prop :=
  ∃ tenant lookups a b c, Hosts {} [tenant] (view progress.world.engine) ∧
    application.Fits old tenant progress.world a b c progress.turn ∧
    progress.journal = staged lookups old.filters a b c tenant.filters

variable {application} {view : σ → Memory} {old tenant : Tenant} {world : World σ SessionId ρ}
  {lookups : List Lookup} {a b : Nat}

/-- Once the old policy is gone, nothing is there. -/
theorem exposed_freed {next : Option Policy}
    (wanted : ∀ policy, next = some policy → application.Compiles policy)
    (answer : Except PolicyError Unit) (hosts : Hosts {} [.absent] (view world.engine)) :
    application.Exposed view old
      (application.freed next answer world (staged lookups old.filters a b 0 [])) := by
  cases next with
  | none => exact ⟨.absent, lookups, a, b, 0, hosts, fun some => absurd rfl some, rfl⟩
  | some policy =>
    cases answer with
    | ok _ =>
      exact ⟨.absent, lookups, a, b, 0, hosts, ⟨rfl, trivial, wanted policy rfl, fun some =>
        absurd rfl some⟩, rfl⟩
    | error error =>
      refine ⟨.absent, lookups, a, b, 0, ?_, fun some => absurd rfl some, rfl⟩
      simpa only [freed, World.engine_moveRoutes] using hosts

theorem exposed_release {next : Option Policy}
    (wanted : ∀ policy, next = some policy → application.Compiles policy)
    (hosts : Hosts {} [old] (view world.engine))
    (active : world.killSwitch.active.bind (·.session) = old.number?) :
    application.Exposed view old
      (application.release next world (staged lookups old.filters 0 0 0 old.filters)) := by
  unfold release
  dsimp only
  split
  next session found =>
    exact ⟨old, lookups, 0, 0, 0, hosts, ⟨rfl, rfl, rfl, rfl, active ▸ found, wanted⟩, rfl⟩
  next none =>
    rw [active] at none
    cases old with
    | absent => exact exposed_freed wanted (.ok ()) hosts
    | loose session => cases none
    | staging session staged => cases none
    | settled session ns stored => cases none

section Advancing

variable {outer : Engine σ SessionId} {journal : List (Moment (List Stored))}

/-- What there is to see of a tenant that is alone. -/
theorem look_of_hosts (sees : ∀ state, application.look state = (view state).filters)
    {state : σ} (hosts : Hosts {} [tenant] (view state)) :
    application.look state = tenant.filters :=
  (sees state).trans (hosts.filters_of_alone rfl)

theorem exposed_compiling (sees : ∀ state, application.look state = (view state).filters)
    {done : List CompiledDirective} {rest : List (Directive × Assigned)}
    (exposed : application.Exposed view old ⟨.compiling done rest, world, journal⟩) :
    application.Exposed view old (application.advance ⟨.compiling done rest, world, journal⟩) := by
  obtain ⟨tenant, lookups, a, b, c, hosts, ⟨rfl, rfl, rfl, rfl, active, compiles⟩, rfl⟩ := exposed
  cases rest with
  | nil =>
    refine exposed_release (fun policy is => ?_) hosts active
    have all := compiles [] rfl
    rw [List.append_nil] at all
    exact Option.some.inj is ▸ all
  | cons entry rest =>
    obtain ⟨directive, weight⟩ := entry
    have seen := look_of_hosts sees hosts
    simp only [advance, seen]
    rw [staged_lookups]
    cases compiled : (directive.compile application.resolver weight).result with
    | error error => exact ⟨tenant, _, 0, 0, 0, hosts, fun some => absurd rfl some, rfl⟩
    | ok first =>
      refine ⟨tenant, _, 0, 0, 0, hosts, ⟨rfl, rfl, rfl, rfl, active, fun more ended => ?_⟩, rfl⟩
      rw [List.append_assoc]
      refine compiles (first :: more) ?_
      rw [Policy.result_compileAll_cons, compiled]
      change ((Policy.compileAll application.resolver rest).result >>= _) = _
      rw [ended]
      rfl

theorem exposed_closing (front : Front application.engine view)
    (sees : ∀ state, application.look state = (view state).filters) {session : SessionId}
    {next : Option Policy}
    (exposed : application.Exposed view old ⟨.closing session next, world, journal⟩) :
    application.Exposed view old (application.advance ⟨.closing session next, world, journal⟩) := by
  obtain ⟨tenant, lookups, a, b, c, hosts, ⟨rfl, rfl, rfl, rfl, own, wanted⟩, rfl⟩ := exposed
  rcases front.close_hosts hosts own with ⟨error, state, eq, left⟩ | ⟨state, eq, left⟩
  · refine ⟨tenant, lookups, 1, 0, 0, ?_, ⟨rfl, own, wanted⟩, ?_⟩
    · simpa only [advance, eq] using left
    · simp only [advance, eq]
      rw [look_of_hosts sees left]
      exact staged_old
  · refine ⟨.loose session, lookups, 0, 1, 0, ?_, ⟨rfl, rfl, wanted⟩, ?_⟩
    · simpa only [advance, eq] using left
    · simp only [advance, eq]
      rw [look_of_hosts sees left]
      exact staged_none

theorem exposed_leaving (front : Front application.engine view)
    (sees : ∀ state, application.look state = (view state).filters) {session : SessionId}
    {answer : Except PolicyError Unit} {next : Option Policy}
    (exposed : application.Exposed view old ⟨.leaving session answer next, world, journal⟩) :
    application.Exposed view old
      (application.advance ⟨.leaving session answer next, world, journal⟩) := by
  obtain ⟨tenant, lookups, a, b, c, hosts, ⟨rfl, own, wanted⟩, rfl⟩ := exposed
  have left := front.drop_hosts hosts own
  simp only [advance]
  rw [look_of_hosts sees left]
  have seen : staged lookups old.filters a b 0 tenant.filters ++ [.call Tenant.absent.filters] =
      staged lookups old.filters a (b + 1) 0 [] := staged_none
  rw [seen]
  exact exposed_freed wanted answer left

theorem exposed_installing (front : Front application.engine view)
    (sees : ∀ state, application.look state = (view state).filters) {policy : Policy}
    {stage : Stage SessionId}
    (exposed : application.Exposed view old ⟨.installing policy stage, world, journal⟩) :
    application.Exposed view old
      (application.advance ⟨.installing policy stage, world, journal⟩) := by
  obtain ⟨tenant, lookups, a, b, c, hosts, ⟨rfl, consistent, compiles, last⟩, rfl⟩ := exposed
  rcases stage.unfinished_or with unfinished | ⟨result, rfl⟩
  · have none : c = 0 := by
      by_contra some
      obtain ⟨installed, ended⟩ := last some
      exact unfinished _ ended
    subst none
    rw [advance_installing policy unfinished]
    obtain ⟨next, is, consistent, left⟩ :=
      stage.step_hosts front world.killSwitch.options policy consistent hosts
    have seen := look_of_hosts sees left
    rw [is]
    by_cases ended : ∃ installed, next = .finished (.ok installed)
    · exact ⟨next.tenant policy, lookups, a, b, 1, left,
        ⟨rfl, consistent, compiles, fun _ => ended⟩, seen ▸ staged_new⟩
    · have nothing : (next.tenant policy).filters = [] := by
        cases next with
        | finished result =>
          cases result with
          | ok installed => exact absurd ⟨installed, rfl⟩ ended
          | error error => rfl
        | _ => rfl
      refine ⟨next.tenant policy, lookups, a, b + 1, 0, left,
        ⟨rfl, consistent, compiles, fun some => absurd rfl some⟩, ?_⟩
      rw [seen, nothing]
      exact staged_none
  · cases result with
    | ok installed =>
      have kept : Hosts {} [installed.tenant policy] (view world.engine) := hosts
      refine ⟨installed.tenant policy, lookups, a, b, c, ?_, fun _ => ?_, rfl⟩
      · simpa only [advance, World.engine_moveRoutes] using kept
      · refine ⟨installed, policy, ?_, rfl, consistent, compiles⟩
        simp only [advance, World.active_moveRoutes]
    | error error =>
      have gone : Hosts {} [.absent] (view world.engine) := hosts
      refine ⟨.absent, lookups, a, b, c, ?_, fun some => ?_, rfl⟩
      · simpa only [advance, World.engine_moveRoutes] using gone
      · obtain ⟨installed, same⟩ := last some
        cases same

/-- Whatever is done next, and whatever fails, no other filters come into force. -/
theorem Exposed.advance (front : Front application.engine view)
    (sees : ∀ state, application.look state = (view state).filters)
    {progress : Progress σ SessionId ρ (List Stored)}
    (exposed : application.Exposed view old progress) :
    application.Exposed view old (application.advance progress) := by
  obtain ⟨turn, world, journal⟩ := progress
  cases turn with
  | compiling done rest => exact exposed_compiling sees exposed
  | closing session next => exact exposed_closing front sees exposed
  | leaving session answer next => exact exposed_leaving front sees exposed
  | installing policy stage => exact exposed_installing front sees exposed
  | finished result => exact exposed

theorem Exposed.iterate (front : Front application.engine view)
    (sees : ∀ state, application.look state = (view state).filters)
    {progress : Progress σ SessionId ρ (List Stored)}
    (exposed : application.Exposed view old progress) (n : Nat) :
    application.Exposed view old (application.advance^[n] progress) := by
  induction n with
  | zero => exact exposed
  | succ n ih =>
    rw [Function.iterate_succ_apply']
    exact ih.advance front sees

/-- The start of an application shows nothing yet. -/
theorem exposed_start (hosts : Hosts {} [old] (view world.engine))
    (active : world.killSwitch.active.bind (·.session) = old.number?) :
    application.Exposed view old (application.start world) := by
  have nothing : ([] : List (Moment (List Stored))) =
      staged [] old.filters 0 0 0 old.filters := rfl
  have still : ∀ result, application.Exposed view old ⟨.finished result, world, []⟩ :=
    fun result => ⟨old, [], 0, 0, 0, hosts, fun some => absurd rfl some, nothing⟩
  unfold start
  split
  · exact still _
  · split
    · rw [nothing]
      refine exposed_release nofun ?_ ?_
      · rwa [World.engine_moveRoutes]
      · rwa [World.active_moveRoutes]
    · split
      · exact still _
      next clean =>
        split
        · exact still _
        next weights weighed =>
          refine ⟨old, [], 0, 0, 0, hosts, ⟨rfl, rfl, rfl, rfl, active, fun more ended => ?_⟩,
            nothing⟩
          rw [Compiles, Builder.compile, clean]
          exact Policy.compile_eq_ok.mpr ⟨weights, weighed, ended⟩

end Advancing

end Application

namespace World

variable {σ ρ : Type} {view : σ → Memory} {world : World σ SessionId ρ}
  {outer : Engine σ SessionId} {manager : RouteManager ρ} {resolver : Resolver}

/-- What an application comes to for a kill switch that is alone, whatever resolvers it had
before. -/
theorem Steady.applied {answers : Resolver} (steady : world.Steady view answers)
    (front : Front outer view) (settings : Settings) (vpnAddress : Option Address) :
    ∃ answers, (world.apply outer manager resolver settings vpnAddress).2.Steady view answers := by
  have went := World.applied outer manager resolver settings vpnAddress world
  generalize (world.apply outer manager resolver settings vpnAddress).1 = looked at went
  generalize (world.apply outer manager resolver settings vpnAddress).2 = final at went ⊢
  cases went with
  | kept current => exact ⟨answers, steady⟩
  | stopped fresh unwanted => exact ⟨answers, Or.inl (steady.stop manager front).1⟩
  | uncompiled fresh wanted refused untouched => exact ⟨answers, steady⟩
  | @failed fresh wanted policy compiled error next swapped =>
    rcases steady.swap front policy with ⟨_, _, eq, idle⟩ | ⟨_, _, eq, _⟩ <;>
      rw [swapped] at eq <;> cases eq
    exact ⟨answers, Or.inl (idle.moveRoutes manager none)⟩
  | @installed fresh wanted policy compiled installed next swapped =>
    rcases steady.swap front policy with ⟨_, _, eq, idle⟩ | ⟨_, _, eq, complete, hosts⟩ <;>
      rw [swapped] at eq <;> cases eq
    have engaged : World.Steady view resolver { next with killSwitch := { next.killSwitch with
        active := some installed, settings := some settings } } :=
      Or.inr ⟨settings, installed, policy, rfl, rfl, wanted, compiled, complete, hosts⟩
    exact ⟨resolver, engaged.moveRoutes manager vpnAddress⟩

/-- A kill switch without company has no policy in force, or all of one. -/
theorem Shared.steady {others : List SessionId} {theirs : List (SessionId × Write)}
    (shared : Shared view others theirs world) (alone : others = []) :
    ∃ answers, world.Steady view answers := by
  induction shared with
  | @start options state routes empty =>
    refine ⟨({} : LookupTable).resolver, Or.inl ⟨rfl, rfl, ?_⟩⟩
    rw [show view _ = {} from empty]
    exact sound_empty.hosts_nil
  | apply front manager resolver settings vpnAddress _ ih =>
    obtain ⟨answers, steady⟩ := ih alone
    exact steady.applied front settings vpnAddress
  | stop front manager _ ih =>
    obtain ⟨answers, steady⟩ := ih alone
    exact ⟨answers, Or.inl (steady.stop manager front).1⟩
  | disturb routes armed _ ih =>
    obtain ⟨answers, idle | ⟨kept, installed, policy, engaged⟩⟩ := ih alone
    · exact ⟨answers, Or.inl ⟨idle.active, idle.settings, idle.hosts.rearmed armed⟩⟩
    · exact ⟨answers, Or.inr ⟨kept, installed, policy, engaged.active, engaged.settings,
        engaged.wanted, engaged.compiled, engaged.complete, engaged.hosts.rearmed armed⟩⟩
  | opened same _ ih => cases alone
  | called call other same _ ih =>
    subst alone
    cases other

/-- What a kill switch without company has in the engine. -/
theorem Steady.exists_tenant {answers : Resolver} (steady : world.Steady view answers) :
    ∃ old : Tenant, Hosts {} [old] (view world.engine) ∧
      world.killSwitch.active.bind (·.session) = old.number? ∧
      (world.killSwitch.active = none ∧ old.filters = [] ∨
        ∃ kept installed policy, world.killSwitch.active = some installed ∧
          world.killSwitch.settings = some kept ∧
          (kept.builder.compile answers).result = .ok policy ∧
          installed.Shows policy old.filters) := by
  rcases steady with idle | ⟨kept, installed, policy, engaged⟩
  · refine ⟨.absent, hosts_absent.mpr idle.hosts, ?_, Or.inl ⟨idle.active, rfl⟩⟩
    rw [idle.active]
    rfl
  · refine ⟨installed.tenant policy, engaged.hosts, ?_, Or.inr ⟨kept, installed, policy,
      engaged.active, engaged.settings, engaged.compiled, engaged.complete.shows⟩⟩
    obtain ⟨session, opened⟩ := Option.isSome_iff_exists.mp engaged.complete.1
    rw [engaged.active, Installed.tenant_of_session opened]
    exact opened

/-- A kill switch that is alone has exactly the filters of its old policy in force, if it has one,
when settings are applied.  The turns of the application lead to its outcome.  All lookups are
made with these filters in force, and the calls on the engine after them see these filters, then
none, and then exactly the filters of the policy of the new settings.  That is also what a record
beside the engine holds at the end. -/
theorem staged_of_shared (shared : Shared view [] [] world) (front : Front outer view)
    (manager : RouteManager ρ) (resolver : Resolver) (settings : Settings)
    (vpnAddress : Option Address) :
    let application : Application σ SessionId ρ (List Stored) :=
      ⟨outer, manager, resolver, settings, vpnAddress, fun state => (view state).filters⟩
    let outcome := world.apply outer manager resolver settings vpnAddress
    let entry := (view world.engine).filters
    (world.killSwitch.active = none ∧ entry = [] ∨
        ∃ kept answers installed policy, world.killSwitch.active = some installed ∧
          world.killSwitch.settings = some kept ∧
          (kept.builder.compile answers).result = .ok policy ∧ installed.Shows policy entry) ∧
      ∃ n a b c new, application.advance^[n] (application.start world) =
          ⟨.finished outcome.1.result, outcome.2, staged outcome.1.lookups entry a b c new⟩ ∧
        (world.recorded []).apply (outer.recording application.look) manager resolver settings
            vpnAddress =
          (outcome.1, outcome.2.recorded
            (List.replicate a entry ++ List.replicate b [] ++ List.replicate c new)) ∧
        (c ≠ 0 → ∃ installed policy, outcome.2.killSwitch.active = some installed ∧
          (settings.builder.compile resolver).result = .ok policy ∧
          installed.Shows policy new) := by
  intro application outcome entry
  obtain ⟨answers, steady⟩ := shared.steady rfl
  obtain ⟨old, hosts, active, before⟩ := steady.exists_tenant
  have seen : entry = old.filters := hosts.filters_of_alone rfl
  rw [seen]
  refine ⟨before.imp_right fun ⟨kept, installed, policy, held⟩ =>
    ⟨kept, answers, installed, policy, held⟩, ?_⟩
  obtain ⟨n, journal, reached, asked, recorded⟩ := application.exists_iterate_eq_recorded world
  have exposed : application.Exposed view old (application.advance^[n] (application.start world)) :=
    (Application.exposed_start hosts active).iterate front (fun _ => rfl) n
  rw [reached] at exposed
  obtain ⟨tenant, lookups, a, b, c, _, fits, rfl⟩ := exposed
  rw [lookups_staged] at asked
  rw [seen_staged] at recorded
  refine ⟨n, a, b, c, tenant.filters, ?_, recorded, fun some => ?_⟩
  · rw [reached, asked]
    rfl
  · obtain ⟨installed, policy, active, rfl, complete, compiles⟩ := fits some
    exact ⟨installed, policy, active, compiles, complete.shows⟩

/-- Also where every call is refused the filters of the old policy are followed by none: the call
that closes the session finds them in force, and the one that would open the next finds nothing.
-/
theorem staged_of_refusals :
    let resolver := ({} : LookupTable).resolver
    let started : World Memory SessionId Unit := ⟨{}, {}, ()⟩
    let on := (started.apply Memory.engine .none resolver { enableKillSwitch := true } none).2
    let application : Application Memory SessionId Unit (List Stored) :=
      ⟨Memory.engine.refusing ⟨5, "refused"⟩, .none, resolver,
        { enableKillSwitch := true, allowLan := false }, none, fun state => (id state).filters⟩
    let outcome := on.apply application.engine .none resolver application.settings none
    on.engine.filters ≠ [] ∧
      ∃ n, application.advance^[n] (application.start on) =
        ⟨.finished outcome.1.result, outcome.2, [.call on.engine.filters, .call []]⟩ := by
  intro resolver started on application outcome
  have shared : Shared id [] [] on :=
    .apply front_engine .none resolver { enableKillSwitch := true } none (.start {} () rfl)
  have present : on.engine.filters ≠ [] := by
    decide +kernel
  have silent : outcome.1.lookups = [] := by
    decide +kernel
  have record : ((on.recorded []).apply (application.engine.recording application.look) .none
      resolver application.settings none).2.engine.2 = [on.engine.filters, []] := by
    decide +kernel
  -- From here on only equations about this world are compared, and it is not to be computed.
  clear_value on
  obtain ⟨_, n, a, b, c, new, reached, recorded, _⟩ := staged_of_shared shared
    (front_refusing ⟨5, "refused"⟩) .none resolver
    { enableKillSwitch := true, allowLan := false } none
  have seen : List.replicate a on.engine.filters ++ List.replicate b [] ++ List.replicate c new =
      [on.engine.filters, []] :=
    (congrArg (fun recording => recording.2.engine.2) recorded).symm.trans record
  refine ⟨present, n, reached.trans ?_⟩
  rw [staged, silent, id_eq, seen]
  rfl

end World

end TrafficPolicy
