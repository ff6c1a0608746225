import TrafficPolicy.Proofs.Engine.TenantTables
import TrafficPolicy.Proofs.Install.StageTenancy

/-!
# Installations side by side

Any number of users install policies in one engine in memory and take them out again, in turns of
one call each.  A `Run` is what one user is doing, a `SharedEngine` all of them with their engine.
Any call may be refused before it reaches the engine, and the engine may be asked at any time to
refuse additions or commits itself.

* `Run.Step` is one call of a user; a run that is left alone is `Policy.install` followed by
  `Installed.teardown` (`Run.exists_steps_eq_install`, `Run.exists_steps_eq_teardown`).
* `SharedEngine.Exact` says that what the engine holds is what the policies in force amount to.  It
  holds whatever turns the users take (`SharedEngine.exact_of_reachable`).
-/

namespace TrafficPolicy

/-- What a user does with a policy. -/
inductive Phase (ι : Type) where
  | installing (stage : Stage ι)
  /-- The session was to be closed, and was if the engine answered so; it is let go next. -/
  | releasing (installed : Installed ι) (session : ι) (closed : Bool)
  | gone

/-- A user of an engine: a policy, and how far its installation or removal has come. -/
structure Run (ι : Type) where
  options : InstallOptions
  policy : Policy
  phase : Phase ι

namespace Run

variable {σ ι : Type}

/-- One call of a user.  An installed policy may be torn down at any time. -/
inductive Step (engine : Engine σ ι) : Run ι → σ → Run ι → σ → Prop
  | install {options : InstallOptions} {policy : Policy} (stage : Stage ι) (state : σ) :
    Step engine ⟨options, policy, .installing stage⟩ state
      ⟨options, policy, .installing (stage.step engine options policy state).1⟩
      (stage.step engine options policy state).2
  | close {options : InstallOptions} {policy : Policy} {installed : Installed ι} {session : ι}
    (state : σ) (opened : installed.session = some session) :
    Step engine ⟨options, policy, .installing (.finished (.ok installed))⟩ state
      ⟨options, policy,
        .releasing installed session (engine.call session .close state).1.isOk⟩
      (engine.call session .close state).2
  | letGo {options : InstallOptions} {policy : Policy} {installed : Installed ι} {session : ι}
    {closed : Bool} (state : σ) :
    Step engine ⟨options, policy, .releasing installed session closed⟩ state
      ⟨options, policy, .gone⟩ (engine.drop session state)

/-- Calls of a user that nobody disturbs. -/
inductive Steps (engine : Engine σ ι) : Run ι → σ → Run ι → σ → Prop
  | refl (run : Run ι) (state : σ) : Steps engine run state run state
  | tail {run next last : Run ι} {state there back : σ} :
    Steps engine run state next there → Step engine next there last back →
    Steps engine run state last back

/-- A user whose calls nobody disturbs gets what an installation gives. -/
theorem exists_steps_eq_install (engine : Engine σ ι) (options : InstallOptions) (policy : Policy)
    (state : σ) :
    Steps engine ⟨options, policy, .installing .opening⟩ state
      ⟨options, policy, .installing (.finished (policy.install engine options state).1)⟩
      (policy.install engine options state).2 := by
  have steps : ∀ n, Steps engine ⟨options, policy, .installing .opening⟩ state
      ⟨options, policy, .installing ((Stage.advance engine options policy)^[n] (.opening, state)).1⟩
      ((Stage.advance engine options policy)^[n] (.opening, state)).2 := by
    intro n
    induction n with
    | zero => exact .refl _ _
    | succ n ih =>
      rw [Function.iterate_succ_apply']
      exact .tail ih (.install _ _)
  obtain ⟨n, eq⟩ := Stage.exists_iterate_eq_install engine options policy state
  have reached := steps n
  rw [eq] at reached
  exact reached

/-- A user whose calls nobody disturbs leaves the engine as a teardown does. -/
theorem exists_steps_eq_teardown (engine : Engine σ ι) (options : InstallOptions)
    (policy : Policy) {installed : Installed ι} (active : installed.isActive = true) (state : σ) :
    Steps engine ⟨options, policy, .installing (.finished (.ok installed))⟩ state
      ⟨options, policy, .gone⟩ (installed.teardown engine state).2.2 := by
  obtain ⟨session, opened⟩ := Option.isSome_iff_exists.mp active
  rw [Installed.teardown_state engine opened]
  exact .tail (.tail (.refl _ _) (.close state opened)) (.letGo _)

/-- The installed policy, if its commit has succeeded and its session is neither closed nor let
go. -/
def inForce? (run : Run ι) : Option (Installed ι) :=
  match run.phase with
  | .installing (.finished (.ok installed)) | .releasing installed _ false => some installed
  | .installing _ | .releasing _ _ true | .gone => none

/-- The session that the user has opened and not let go. -/
def session? (run : Run ι) : Option ι :=
  match run.phase with
  | .installing .opening | .installing (.finished (.error _)) | .gone => none
  | .installing (.beginning session) | .installing (.naming session)
  | .installing (.layering session _) | .installing (.filling session _ _)
  | .installing (.aborting session _) | .installing (.closing session _)
  | .installing (.leaving session _) | .releasing _ session _ => some session
  | .installing (.finished (.ok installed)) => installed.session

end Run

/-- Users with the engine they work on. -/
structure SharedEngine where
  memory : Memory := {}
  runs : List (Run SessionId) := []

namespace SharedEngine

/-- What can happen next: somebody starts to install a policy, a user makes a call, or the engine
is asked to fail. -/
inductive Step : SharedEngine → SharedEngine → Prop
  | start (options : InstallOptions) (policy : Policy) {memory : Memory}
    {runs : List (Run SessionId)} :
    Step ⟨memory, runs⟩ ⟨memory, runs ++ [⟨options, policy, .installing .opening⟩]⟩
  | call (refusal : Option EngineError) {memory after : Memory}
    {earlier later : List (Run SessionId)} {run next : Run SessionId} :
    Run.Step (Memory.engineUnder refusal) run memory next after →
    Step ⟨memory, earlier ++ run :: later⟩ ⟨after, earlier ++ next :: later⟩
  | rearm {memory after : Memory} {runs : List (Run SessionId)} :
    memory.Rearmed after → Step ⟨memory, runs⟩ ⟨after, runs⟩

/-- What users can make of an engine that has just been made. -/
inductive Reachable : SharedEngine → Prop
  | start : Reachable {}
  | step {shared next : SharedEngine} : shared.Reachable → Step shared next → Reachable next

/-- The policies in force, with what they were compiled to. -/
def inForce (shared : SharedEngine) : List (Policy × Installed SessionId) :=
  shared.runs.filterMap fun run => run.inForce?.map (run.policy, ·)

/-- The engine holds what the policies in force amount to and nothing else: for each a provider of
its session, a sublayer under it, and there all its filters in order, with its numbers.  No
session is open but those that users have opened and not let go. -/
structure Exact (shared : SharedEngine) : Prop where
  providers : (shared.memory.providers.map fun entry => (entry.1, some entry.2)).Perm
    (shared.inForce.map fun held => (held.2.ns.provider, held.2.session))
  sublayers : shared.memory.sublayers.Perm
    (shared.inForce.map fun held => (held.2.ns.sublayer, held.2.ns.provider))
  filters : shared.memory.filters.Perm
    (shared.inForce.flatMap fun held => shared.memory.filtersIn held.2.ns)
  complete : ∀ held ∈ shared.inForce,
    (shared.memory.filtersIn held.2.ns).map (·.filter) = held.1.filters ∧
      (shared.memory.filtersIn held.2.ns).map (·.id) = held.2.ids
  disjoint : (shared.inForce.map (·.2.ns.provider)).Nodup ∧
    (shared.inForce.map (·.2.ns.sublayer)).Nodup ∧ (shared.inForce.flatMap (·.2.ids)).Nodup
  sessions : ∀ session ∈ shared.memory.sessions, ∃ run ∈ shared.runs, run.session? = some session.id
  apart : (shared.runs.filterMap Run.session?).Nodup

end SharedEngine

/-! ## What the users have -/

namespace Run

/-- What a user has in the engine. -/
def tenant (run : Run SessionId) : Tenant :=
  match run.phase with
  | .installing stage => stage.tenant run.policy
  | .releasing installed _ false => installed.tenant run.policy
  | .releasing _ session true => .loose session
  | .gone => .absent

/-- The user holds what belongs to its policy. -/
def Consistent (run : Run SessionId) : Prop :=
  match run.phase with
  | .installing stage => stage.Consistent run.policy
  | .releasing installed session false =>
    installed.Complete run.policy ∧ installed.session = some session
  | .releasing _ _ true | .gone => True

section Turn

open Memory

variable {σ : Type} {outer : Engine σ SessionId} {view : σ → Memory} {frame : Memory}
  {others : List Tenant} {state after : σ} {run next : Run SessionId}

/-- A call of one user leaves to the others what they have. -/
theorem Step.hosts (front : Front outer view) (step : Step outer run state next after)
    (consistent : run.Consistent) (hosts : Hosts frame (run.tenant :: others) (view state)) :
    next.Consistent ∧ Hosts frame (next.tenant :: others) (view after) := by
  cases step with
  | install stage =>
    obtain ⟨_, rfl, consistent, hosts⟩ := Stage.step_hosts front _ _ stage consistent hosts
    exact ⟨consistent, hosts⟩
  | @close _ policy installed session _ opened =>
    have own : (installed.tenant policy).number? = some session := by
      rw [Installed.tenant_of_session opened]
      rfl
    rcases front.close_hosts hosts own with ⟨_, _, eq, hosted⟩ | ⟨_, eq, hosted⟩
    · rw [eq]
      exact ⟨⟨consistent, opened⟩, hosted⟩
    · rw [eq]
      exact ⟨trivial, hosted⟩
  | @letGo _ policy installed session closed =>
    cases closed with
    | false =>
      have own : (installed.tenant policy).number? = some session := by
        rw [Installed.tenant_of_session consistent.2]
        rfl
      exact ⟨trivial, front.drop_hosts hosts own⟩
    | true => exact ⟨trivial, front.drop_hosts hosts rfl⟩

end Turn

theorem session?_eq_number? {run : Run SessionId} (consistent : run.Consistent) :
    run.session? = run.tenant.number? := by
  obtain ⟨options, policy, phase⟩ := run
  cases phase with
  | installing stage =>
    cases stage with
    | finished result =>
      cases result with
      | error error => rfl
      | ok installed =>
        obtain ⟨session, opened⟩ := Option.isSome_iff_exists.mp consistent.1
        simp [session?, tenant, Stage.tenant, Installed.tenant, opened, Tenant.number?]
    | _ => rfl
  | releasing installed session closed =>
    cases closed with
    | false =>
      simp [session?, tenant, Installed.tenant_of_session consistent.2, Tenant.number?]
    | true => rfl
  | gone => rfl

/-- A user without a policy in force has nothing in the tables. -/
theorem bare_of_inForce? {run : Run SessionId} (none : run.inForce? = none) :
    run.tenant.Bare := by
  obtain ⟨options, policy, phase⟩ := run
  cases phase with
  | installing stage =>
    cases stage with
    | finished result =>
      cases result with
      | error error => exact ⟨rfl, rfl, rfl⟩
      | ok installed => cases none
    | _ => exact ⟨rfl, rfl, rfl⟩
  | releasing installed session closed =>
    cases closed with
    | false => cases none
    | true => exact ⟨rfl, rfl, rfl⟩
  | gone => exact ⟨rfl, rfl, rfl⟩

/-- A policy in force has a session, and all of its filters in the tables. -/
theorem settled_of_inForce? {run : Run SessionId} {installed : Installed SessionId}
    (consistent : run.Consistent) (held : run.inForce? = some installed) :
    ∃ session, installed.session = some session ∧
      installed.ids.length = run.policy.filters.length ∧
      run.tenant = .settled session installed.ns
        (installed.ns.stored installed.ids run.policy.filters) := by
  obtain ⟨options, policy, phase⟩ := run
  cases phase with
  | installing stage =>
    cases stage with
    | finished result =>
      cases result with
      | error error => cases held
      | ok other =>
        cases held
        obtain ⟨session, opened⟩ := Option.isSome_iff_exists.mp consistent.1
        exact ⟨session, opened, consistent.2, Installed.tenant_of_session opened⟩
    | _ => cases held
  | releasing other session closed =>
    cases closed with
    | false =>
      cases held
      exact ⟨session, consistent.2, consistent.1.2, Installed.tenant_of_session consistent.2⟩
    | true => cases held
  | gone => cases held

end Run

/-! ## What happens to the engine -/

namespace SharedEngine

open Memory

/-- Each user has what belongs to its policy, and the engine holds that and nothing else. -/
structure Sound (shared : SharedEngine) : Prop where
  consistent : ∀ run ∈ shared.runs, run.Consistent
  hosts : Hosts {} (shared.runs.map Run.tenant) shared.memory

theorem Step.sound {shared next : SharedEngine} (step : Step shared next) (sound : shared.Sound) :
    next.Sound := by
  obtain ⟨consistent, hosts⟩ := sound
  cases step with
  | @start options policy memory runs =>
    refine ⟨fun run member => ?_, ?_⟩
    · rcases List.mem_append.mp member with inside | place
      · exact consistent run inside
      · rw [List.mem_singleton.mp place]
        trivial
    · have added : Hosts {} (.absent :: runs.map Run.tenant) memory := hosts_absent.mpr hosts
      rw [List.map_append]
      exact added.perm (List.perm_append_singleton _ _).symm
  | @call refusal memory after earlier later run next step =>
    have turn : ∀ other : Run SessionId, ((earlier ++ other :: later).map Run.tenant).Perm
        (other.tenant :: (earlier ++ later).map Run.tenant) := fun other =>
      List.perm_middle.map Run.tenant
    obtain ⟨kept, hosted⟩ := step.hosts (front_engineUnder refusal)
      (consistent run (List.mem_append_right _ List.mem_cons_self)) (hosts.perm (turn run))
    refine ⟨fun other member => ?_, hosted.perm (turn next).symm⟩
    rcases List.mem_append.mp member with inside | inside
    · exact consistent other (List.mem_append_left _ inside)
    · rcases List.mem_cons.mp inside with rfl | inside
      · exact kept
      · exact consistent other (List.mem_append_right _ (List.mem_cons_of_mem _ inside))
  | rearm armed => exact ⟨consistent, hosts.rearmed armed⟩

theorem Reachable.sound {shared : SharedEngine} (reachable : shared.Reachable) :
    shared.Sound := by
  induction reachable with
  | start => exact ⟨by simp, sound_empty.hosts_nil⟩
  | step _ step ih => exact step.sound ih

/-- A user may make calls while the others wait. -/
theorem Reachable.steps {memory after : Memory} {earlier later : List (Run SessionId)}
    {run next : Run SessionId} {refusal : Option EngineError}
    (reachable : Reachable ⟨memory, earlier ++ run :: later⟩)
    (steps : Run.Steps (engineUnder refusal) run memory next after) :
    Reachable ⟨after, earlier ++ next :: later⟩ := by
  induction steps with
  | refl => exact reachable
  | tail _ step ih => exact .step (ih reachable) (.call refusal step)

/-- What all users have in a table is what the policies in force have there. -/
theorem flatMap_tenant {α : Type} {runs : List (Run SessionId)} (table : Tenant → List α)
    (entries : Policy × Installed SessionId → List α)
    (consistent : ∀ run ∈ runs, run.Consistent)
    (bare : ∀ tenant : Tenant, tenant.Bare → table tenant = [])
    (settled : ∀ policy (installed : Installed SessionId) session,
      installed.session = some session →
        table (.settled session installed.ns (installed.ns.stored installed.ids policy.filters)) =
          entries (policy, installed)) :
    (runs.map Run.tenant).flatMap table =
      (runs.filterMap fun run => run.inForce?.map (run.policy, ·)).flatMap entries := by
  induction runs with
  | nil => rfl
  | cons run rest ih =>
    have others := ih fun other inside => consistent other (List.mem_cons_of_mem _ inside)
    rw [List.map_cons, List.flatMap_cons, others, List.filterMap_cons]
    cases held : run.inForce? with
    | none => rw [bare _ (Run.bare_of_inForce? held)]; rfl
    | some installed =>
      obtain ⟨session, opened, _, eq⟩ :=
        Run.settled_of_inForce? (consistent run List.mem_cons_self) held
      rw [eq, settled run.policy installed session opened]
      rfl

theorem Sound.filtersIn_eq {shared : SharedEngine} (sound : shared.Sound)
    {held : Policy × Installed SessionId} (member : held ∈ shared.inForce) :
    held.2.ids.length = held.1.filters.length ∧
      shared.memory.filtersIn held.2.ns = held.2.ns.stored held.2.ids held.1.filters := by
  obtain ⟨run, inside, eq⟩ := List.mem_filterMap.mp member
  obtain ⟨installed, force, rfl⟩ := Option.map_eq_some_iff.mp eq
  obtain ⟨session, _, full, tenant⟩ := Run.settled_of_inForce? (sound.consistent run inside) force
  obtain ⟨earlier, later, split⟩ := List.append_of_mem inside
  have hosts := sound.hosts
  rw [split] at hosts
  have first := hosts.perm (List.perm_middle.map Run.tenant)
  rw [List.map_cons, tenant] at first
  exact ⟨full, first.filtersIn_eq⟩

theorem Sound.perm_providers {shared : SharedEngine} (sound : shared.Sound) :
    (shared.memory.providers.map fun entry => (entry.1, some entry.2)).Perm
      (shared.inForce.map fun held => (held.2.ns.provider, held.2.session)) := by
  have perm := sound.hosts.perm_providers.map fun entry => (entry.1, some entry.2)
  have eq := flatMap_tenant
    (fun tenant => tenant.providers.map fun entry => (entry.1, some entry.2))
    (fun held => [(held.2.ns.provider, held.2.session)]) sound.consistent
    (fun tenant bare => by rw [bare.1]; rfl)
    (fun policy installed session opened => by rw [opened]; rfl)
  rw [List.nil_append, List.map_flatMap, eq, ← List.map_eq_flatMap] at perm
  exact perm

theorem Sound.perm_sublayers {shared : SharedEngine} (sound : shared.Sound) :
    shared.memory.sublayers.Perm
      (shared.inForce.map fun held => (held.2.ns.sublayer, held.2.ns.provider)) := by
  have perm := sound.hosts.perm_sublayers
  have eq := flatMap_tenant Tenant.sublayers
    (fun held => [(held.2.ns.sublayer, held.2.ns.provider)]) sound.consistent
    (fun tenant bare => bare.2.1) (fun policy installed session opened => rfl)
  rw [List.nil_append, eq, ← List.map_eq_flatMap] at perm
  exact perm

theorem Sound.perm_filters {shared : SharedEngine} (sound : shared.Sound) :
    shared.memory.filters.Perm
      (shared.inForce.flatMap fun held => shared.memory.filtersIn held.2.ns) := by
  have perm := sound.hosts.perm_filters
  have eq := flatMap_tenant Tenant.filters
    (fun held => held.2.ns.stored held.2.ids held.1.filters) sound.consistent
    (fun tenant bare => bare.2.2) (fun policy installed session opened => rfl)
  rw [List.nil_append, eq] at perm
  refine perm.trans (List.Perm.of_eq ?_)
  refine List.flatMap_congr fun held member => ?_
  exact (sound.filtersIn_eq member).2.symm

/-- No two policies in force share a key or a number. -/
theorem Sound.disjoint {shared : SharedEngine} (sound : shared.Sound) :
    (shared.inForce.map (·.2.ns.provider)).Nodup ∧
      (shared.inForce.map (·.2.ns.sublayer)).Nodup ∧
      (shared.inForce.flatMap (·.2.ids)).Nodup := by
  have engine := sound.hosts.sound
  refine ⟨?_, ?_, ?_⟩
  · have perm := sound.perm_providers.map (·.1)
    rw [List.map_map, List.map_map] at perm
    exact perm.nodup_iff.mp engine.providers_nodup
  · have perm := sound.perm_sublayers.map (·.1)
    rw [List.map_map] at perm
    exact perm.nodup_iff.mp engine.sublayers_nodup
  · have perm := sound.perm_filters.map (·.id)
    have nodup : (shared.memory.filters.map (·.id)).Nodup :=
      List.pairwise_map.mpr (engine.filters_sorted.imp Nat.ne_of_lt)
    have eq : (shared.inForce.flatMap fun held => shared.memory.filtersIn held.2.ns).map (·.id) =
        shared.inForce.flatMap (·.2.ids) := by
      rw [List.map_flatMap]
      refine List.flatMap_congr fun held member => ?_
      obtain ⟨full, eq⟩ := sound.filtersIn_eq member
      rw [eq]
      exact (Namespace.map_stored full).2
    rw [eq] at perm
    exact perm.nodup_iff.mp nodup

/-- Whatever turns the users take and whatever fails, what the engine holds is what the policies
in force amount to. -/
theorem exact_of_reachable {shared : SharedEngine} (reachable : shared.Reachable) :
    shared.Exact where
  providers := reachable.sound.perm_providers
  sublayers := reachable.sound.perm_sublayers
  filters := reachable.sound.perm_filters
  complete held member := by
    obtain ⟨full, eq⟩ := reachable.sound.filtersIn_eq member
    rw [eq]
    exact Namespace.map_stored full
  disjoint := reachable.sound.disjoint
  sessions session member := by
    rcases reachable.sound.hosts.owned session member with old | ⟨tenant, inside, own⟩
    · cases old
    · obtain ⟨run, place, rfl⟩ := List.mem_map.mp inside
      exact ⟨run, place, (Run.session?_eq_number? (reachable.sound.consistent run place)).trans own⟩
  apart := by
    have numbers := reachable.sound.hosts.numbers_nodup
    rw [List.filterMap_map] at numbers
    have eq : shared.runs.filterMap Run.session? =
        shared.runs.filterMap (Tenant.number? ∘ Run.tenant) :=
      List.filterMap_congr fun run place =>
        Run.session?_eq_number? (reachable.sound.consistent run place)
    rw [eq]
    exact numbers

theorem exact_beside_refused :
    let policy : Policy :=
      ⟨[⟨"AllTraffic", .block, ⟨1, none⟩, [⟨.connectV4, .block, 1, [], "block"⟩]⟩]⟩
    let installed := policy.install Memory.engine {} {}
    let refused : PolicyError := .install openSessionName .sessionClosed
    let shared : SharedEngine := ⟨installed.2,
      [⟨{}, policy, .installing (.finished installed.1)⟩,
        ⟨{}, policy, .installing (.finished (.error refused))⟩]⟩
    shared.memory.filters.length = 1 ∧ shared.inForce.length = 1 ∧ shared.Exact := by
  intro policy installed refused shared
  have opened : Reachable ⟨{}, [⟨{}, policy, .installing .opening⟩]⟩ :=
    .step .start (.start {} policy)
  have first : Reachable ⟨installed.2, [⟨{}, policy, .installing (.finished installed.1)⟩]⟩ :=
    @Reachable.steps _ _ [] [] _ _ none opened
      (Run.exists_steps_eq_install Memory.engine {} policy {})
  have beside : ∀ memory run, Reachable ⟨memory, [run]⟩ →
      Reachable ⟨memory, [run, ⟨{}, policy, .installing (.finished (.error refused))⟩]⟩ := by
    intro memory run reachable
    have both : Reachable ⟨memory, [run, ⟨{}, policy, .installing .opening⟩]⟩ :=
      .step reachable (.start {} policy)
    exact @Reachable.steps _ _ [run] [] _ _ (some .sessionClosed) both
      (.tail (.refl _ _) (.install .opening memory))
  have reachable : shared.Reachable := beside _ _ first
  refine ⟨?_, ?_, exact_of_reachable reachable⟩
  · simp only [shared, installed, policy]
    decide +kernel
  · simp only [shared, installed, policy]
    decide +kernel

end SharedEngine

end TrafficPolicy
