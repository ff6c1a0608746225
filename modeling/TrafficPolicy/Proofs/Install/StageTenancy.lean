import TrafficPolicy.Proofs.Engine.TenantCalls
import TrafficPolicy.Proofs.Install.Stage

/-!
# What an installation has in an engine

`Stage.tenant` gives what an installation has in the engine in memory at each of its stages.  One
call, through any front of the engine and beside any other tenants, leads from what the stage
before has to what the stage after has (`Stage.step_hosts`).
-/

namespace TrafficPolicy

namespace Namespace

/-- Filters under a namespace, with their numbers. -/
def stored (ns : Namespace) (ids : List FilterId) (filters : List Filter) : List Stored :=
  List.zipWith (fun id filter => ⟨id, ns, filter⟩) ids filters

theorem ns_of_mem_stored {ns : Namespace} {ids : List FilterId} {filters : List Filter}
    {entry : Stored} (member : entry ∈ ns.stored ids filters) : entry.ns = ns := by
  rw [stored, List.zipWith_eq_zipWith_take_min, ← List.map_uncurry_zip_eq_zipWith] at member
  obtain ⟨pair, _, rfl⟩ := List.mem_map.mp member
  rfl

theorem stored_concat {ns : Namespace} {ids : List FilterId} {filters : List Filter}
    {filter : Filter} (found : filters[ids.length]? = some filter) (id : FilterId) :
    ns.stored (ids ++ [id]) filters = ns.stored ids filters ++ [⟨id, ns, filter⟩] := by
  induction ids generalizing filters with
  | nil =>
    cases filters with
    | nil => cases found
    | cons first rest =>
      cases found
      simp [stored]
  | cons earlier ids ih =>
    cases filters with
    | nil => cases found
    | cons first rest => exact congrArg (_ :: ·) (ih found)

/-- As many numbers as filters: both are read back in their order. -/
theorem map_stored {ns : Namespace} {ids : List FilterId} {filters : List Filter}
    (full : ids.length = filters.length) :
    (ns.stored ids filters).map (·.filter) = filters ∧
      (ns.stored ids filters).map (·.id) = ids := by
  induction ids generalizing filters with
  | nil =>
    cases filters with
    | nil => exact ⟨rfl, rfl⟩
    | cons first rest => cases full
  | cons id ids ih =>
    cases filters with
    | nil => cases full
    | cons first rest =>
      obtain ⟨filters, numbers⟩ := ih (Nat.succ.inj full)
      exact ⟨congrArg (first :: ·) filters, congrArg (id :: ·) numbers⟩

theorem writes_concat (ns : Namespace) (entries : List Stored) (entry : Stored) :
    ns.writes (entries ++ [entry]) = ns.writes entries ++ [.filter entry] := by
  simp [writes]

end Namespace

/-- What an installed policy keeps in an engine. -/
def Installed.tenant (policy : Policy) (installed : Installed SessionId) : Tenant :=
  match installed.session with
  | none => .absent
  | some session =>
    .settled session installed.ns (installed.ns.stored installed.ids policy.filters)

theorem Installed.tenant_of_session {policy : Policy} {installed : Installed SessionId}
    {session : SessionId} (opened : installed.session = some session) :
    installed.tenant policy = .settled session installed.ns
      (installed.ns.stored installed.ids policy.filters) := by
  rw [tenant, opened]

/-- The policy is in force, with all of its filters. -/
def Installed.Complete {ι : Type} (policy : Policy) (installed : Installed ι) : Prop :=
  installed.isActive = true ∧ installed.ids.length = policy.filters.length

namespace Stage

/-- What an installation has in an engine. -/
def tenant (policy : Policy) : Stage SessionId → Tenant
  | opening => .absent
  | beginning session => .staging session none
  | naming session => .staging session (some [])
  | layering session provider => .staging session (some [.provider provider])
  | filling session ns ids => .staging session (some (ns.writes (ns.stored ids policy.filters)))
  | aborting session _ | closing session _ | leaving session _ => .loose session
  | finished (.ok installed) => installed.tenant policy
  | finished (.error _) => .absent

/-- The numbers at a stage belong to filters of the policy. -/
def Consistent (policy : Policy) : Stage SessionId → Prop
  | filling _ _ ids => ids.length ≤ policy.filters.length
  | finished (.ok installed) => installed.Complete policy
  | opening | beginning _ | naming _ | layering .. | aborting .. | closing .. | leaving ..
  | finished (.error _) => True

end Stage

namespace Memory

variable {σ : Type} {outer : Engine σ SessionId} {view : σ → Memory} {frame : Memory}
  {others : List Tenant}

/-- A request of the first tenant, given what it does inside and that a refused one leaves the
tenant with nothing but its session. -/
theorem Front.request {tenant : Tenant} {state : σ} (front : Front outer view)
    (session : SessionId) (call : Call) (after : call.Reply → Tenant)
    (hosts : Hosts frame (tenant :: others) (view state))
    (own : tenant.number? = some session) (bare : tenant.Bare)
    (inside : ∀ {memory : Memory}, Hosts frame (tenant :: others) memory →
      (∃ error next, Memory.call session call memory = (.error error, next) ∧
        Hosts frame (.loose session :: others) next) ∨
      ∃ reply next, Memory.call session call memory = (.ok reply, next) ∧
        Hosts frame (after reply :: others) next) :
    (∃ error next, outer.request session call state = (.error error, next) ∧
      Hosts frame (.loose session :: others) (view next)) ∨
    ∃ reply next, outer.request session call state = (.ok reply, next) ∧
      Hosts frame (after reply :: others) (view next) := by
  obtain ⟨armed, rearmed, relayed⟩ := front.call session call state
  rcases called : outer.call session call state with ⟨answer, next⟩
  have requested : outer.request session call state =
      (answer.mapError (.install call.name), next) := by
    rw [Engine.request, called]
  rw [called] at relayed
  rcases relayed with ⟨error, rfl, same⟩ | ⟨answered, same⟩
  · refine Or.inl ⟨_, next, requested, ?_⟩
    rw [same]
    exact (hosts.rearmed rearmed).loosen own bare
  · rcases inside (hosts.rearmed rearmed) with
      ⟨error, there, eq, hosted⟩ | ⟨reply, there, eq, hosted⟩
    · rw [eq] at answered same
      subst answered
      exact Or.inl ⟨_, next, requested, same ▸ hosted⟩
    · rw [eq] at answered same
      subst answered
      exact Or.inr ⟨reply, next, requested, same ▸ hosted⟩

/-- The close of a session is refused on its way, or takes all that its tenant has. -/
theorem Front.close_hosts {tenant : Tenant} {session : SessionId} {state : σ}
    (front : Front outer view) (hosts : Hosts frame (tenant :: others) (view state))
    (own : tenant.number? = some session) :
    (∃ error next, outer.call session .close state = (.error error, next) ∧
      Hosts frame (tenant :: others) (view next)) ∨
    ∃ next, outer.call session .close state = (.ok (), next) ∧
      Hosts frame (.loose session :: others) (view next) := by
  obtain ⟨armed, rearmed, relayed⟩ := front.call session .close state
  have hosts := hosts.rearmed rearmed
  rcases called : outer.call session .close state with ⟨answer, next⟩
  rw [called] at relayed
  rcases relayed with ⟨error, refused, same⟩ | ⟨answered, same⟩
  · refine Or.inl ⟨error, next, Prod.ext refused rfl, ?_⟩
    rw [show view next = armed from same]
    exact hosts
  · obtain ⟨there, eq, hosted, _⟩ := hosts.close own
    rw [eq] at answered same
    refine Or.inr ⟨next, Prod.ext answered rfl, ?_⟩
    rw [show view next = there from same]
    exact hosted

/-- A tenant whose session is dropped has nothing any more. -/
theorem Front.drop_hosts {tenant : Tenant} {session : SessionId} {state : σ}
    (front : Front outer view) (hosts : Hosts frame (tenant :: others) (view state))
    (own : tenant.number? = some session) :
    Hosts frame (.absent :: others) (view (outer.drop session state)) := by
  obtain ⟨armed, rearmed, same⟩ := front.drop session state
  obtain ⟨next, eq, _, hosted⟩ := (hosts.rearmed rearmed).close own
  have dropped : Memory.engine.drop session armed = next := congrArg Prod.snd eq
  rw [same, dropped]
  exact hosted

end Memory

namespace Stage

open Memory

variable {σ : Type} {outer : Engine σ SessionId} {view : σ → Memory} {frame : Memory}
  {others : List Tenant} {state : σ}

/-- One call of an installation leads from what its stage has to what the next one has. -/
theorem step_hosts (front : Front outer view) (options : InstallOptions) (policy : Policy)
    (stage : Stage SessionId) (consistent : stage.Consistent policy)
    (hosts : Hosts frame (stage.tenant policy :: others) (view state)) :
    ∃ next, (stage.step outer options policy state).1 = next ∧ next.Consistent policy ∧
      Hosts frame (next.tenant policy :: others)
        (view (stage.step outer options policy state).2) := by
  cases stage with
  | opening =>
    obtain ⟨armed, rearmed, relayed⟩ :=
      front.openSession options.sessionName options.sessionDescription state
    have hosts := hosts.rearmed rearmed
    obtain ⟨number, opened, eq, hosted⟩ := hosts.openSession
    rw [step]
    rcases called : outer.openSession options.sessionName options.sessionDescription state with
      ⟨answer, next⟩
    rw [called] at relayed
    rcases relayed with ⟨error, rfl, same⟩ | ⟨answered, same⟩
    · exact ⟨_, rfl, trivial, by rw [same]; exact hosts⟩
    · rw [eq] at answered same
      subst answered
      exact ⟨_, rfl, trivial, by rw [same]; exact hosted⟩
  | beginning session =>
    have outcomes := front.request session .begin (fun _ => .staging session (some [])) hosts rfl
      ⟨rfl, rfl, rfl⟩ fun there => Or.inr ⟨(), there.begin⟩
    rw [step]
    rcases outcomes with ⟨error, next, eq, hosted⟩ | ⟨reply, next, eq, hosted⟩
    · rw [eq]
      exact ⟨_, rfl, trivial, hosted⟩
    · rw [eq]
      exact ⟨_, rfl, trivial, hosted⟩
  | naming session =>
    have outcomes := front.request session
      (.addProvider options.providerName options.sessionDescription)
      (fun key => .staging session (some [.provider key])) hosts rfl ⟨rfl, rfl, rfl⟩
      fun there => Or.inr (there.addProvider _ _)
    rw [step]
    rcases outcomes with ⟨error, next, eq, hosted⟩ | ⟨provider, next, eq, hosted⟩
    · rw [eq]
      exact ⟨_, rfl, trivial, hosted⟩
    · rw [eq]
      exact ⟨_, rfl, trivial, hosted⟩
  | layering session provider =>
    have outcomes := front.request session
      (.addSublayer provider options.sublayerName options.sessionDescription)
      (fun key => .staging session (some [.provider provider, .sublayer key provider])) hosts rfl
      ⟨rfl, rfl, rfl⟩ fun there => Or.inr (there.addSublayer List.mem_cons_self _ _)
    rw [step]
    rcases outcomes with ⟨error, next, eq, hosted⟩ | ⟨sublayer, next, eq, hosted⟩
    · rw [eq]
      exact ⟨_, rfl, trivial, hosted⟩
    · rw [eq]
      exact ⟨_, rfl, Nat.zero_le _, hosted⟩
  | filling session ns ids =>
    cases found : policy.filters[ids.length]? with
    | some filter =>
      have known : Write.sublayer ns.sublayer ns.provider ∈
          ns.writes (ns.stored ids policy.filters) :=
        Namespace.mem_writes.mpr (Or.inr (Or.inl rfl))
      have outcomes := front.request session (.addFilter ns filter)
        (fun id => .staging session (some (ns.writes (ns.stored (ids ++ [id]) policy.filters))))
        hosts rfl ⟨rfl, rfl, rfl⟩ fun there => by
          simp only [Namespace.stored_concat found, Namespace.writes_concat]
          refine (there.addFilter known filter).imp_left ?_
          rintro ⟨error, next, eq, hosted⟩
          exact ⟨error, next, eq, hosted.loosen rfl ⟨rfl, rfl, rfl⟩⟩
      simp only [step, found]
      rcases outcomes with ⟨error, next, eq, hosted⟩ | ⟨id, next, eq, hosted⟩
      · rw [eq]
        exact ⟨_, rfl, trivial, hosted⟩
      · rw [eq]
        refine ⟨_, rfl, ?_, hosted⟩
        rw [Consistent, List.length_append]
        exact (List.getElem?_eq_some_iff.mp found).1
    | none =>
      have full : ids.length = policy.filters.length :=
        Nat.le_antisymm consistent (List.getElem?_eq_none_iff.mp found)
      have outcomes := front.request session .commit
        (fun _ => .settled session ns (ns.stored ids policy.filters)) hosts rfl ⟨rfl, rfl, rfl⟩
        fun there => by
          rcases there.commit fun _ => Namespace.ns_of_mem_stored with
            ⟨error, next, eq, hosted⟩ | ⟨next, eq, hosted⟩
          · exact Or.inl ⟨error, next, eq, hosted.loosen rfl ⟨rfl, rfl, rfl⟩⟩
          · exact Or.inr ⟨(), next, eq, hosted⟩
      simp only [step, found]
      rcases outcomes with ⟨error, next, eq, hosted⟩ | ⟨_, next, eq, hosted⟩
      · rw [eq]
        exact ⟨_, rfl, trivial, hosted⟩
      · rw [eq]
        exact ⟨_, rfl, ⟨rfl, full⟩, hosted⟩
  | aborting session error =>
    obtain ⟨armed, rearmed, relayed⟩ := front.call session .abort state
    refine ⟨_, rfl, trivial, ?_⟩
    rcases relayed with ⟨_, _, same⟩ | ⟨_, same⟩
    · rw [step, same]
      exact hosts.rearmed rearmed
    · rw [step, same]
      exact (hosts.rearmed rearmed).abort_loose
  | closing session error =>
    refine ⟨_, rfl, trivial, ?_⟩
    rcases front.close_hosts hosts rfl with ⟨_, next, eq, hosted⟩ | ⟨next, eq, hosted⟩
    · rw [step, eq]
      exact hosted
    · rw [step, eq]
      exact hosted
  | leaving session error =>
    exact ⟨_, rfl, trivial, front.drop_hosts hosts rfl⟩
  | finished result => exact ⟨_, rfl, consistent, hosts⟩

/-- Calls of an installation that follow each other without a break. -/
theorem iterate_hosts (front : Front outer view) (options : InstallOptions) (policy : Policy)
    (n : Nat) (stage : Stage SessionId) (state : σ) (consistent : stage.Consistent policy)
    (hosts : Hosts frame (stage.tenant policy :: others) (view state)) :
    ((advance outer options policy)^[n] (stage, state)).1.Consistent policy ∧
      Hosts frame (((advance outer options policy)^[n] (stage, state)).1.tenant policy :: others)
        (view ((advance outer options policy)^[n] (stage, state)).2) := by
  induction n generalizing stage state with
  | zero => exact ⟨consistent, hosts⟩
  | succ n ih =>
    obtain ⟨next, eq, consistent, hosts⟩ := step_hosts front options policy stage consistent hosts
    subst eq
    exact ih _ _ consistent hosts

end Stage

section Undisturbed

open Memory

variable {σ : Type} {outer : Engine σ SessionId} {view : σ → Memory} {frame : Memory}
  {others : List Tenant} {state : σ}

/-- An installation puts the whole policy into the engine, or nothing. -/
theorem Policy.install_hosts (front : Front outer view) (options : InstallOptions)
    (policy : Policy) (hosts : Hosts frame others (view state)) :
    (∃ error next, policy.install outer options state = (.error error, next) ∧
      Hosts frame others (view next)) ∨
    ∃ installed next, policy.install outer options state = (.ok installed, next) ∧
      installed.Complete policy ∧
      Hosts frame (installed.tenant policy :: others) (view next) := by
  obtain ⟨n, eq⟩ := Stage.exists_iterate_eq_install outer options policy state
  have reached := Stage.iterate_hosts front options policy n .opening state trivial
    (hosts_absent.mpr hosts)
  rw [eq] at reached
  rcases ended : policy.install outer options state with ⟨error | installed, next⟩ <;>
    rw [ended] at reached
  · exact Or.inl ⟨error, next, rfl, hosts_absent.mp reached.2⟩
  · exact Or.inr ⟨installed, next, rfl, reached⟩

/-- The two calls that tear a policy down. -/
theorem Installed.teardown_state {ι : Type} (engine : Engine σ ι) {installed : Installed ι}
    {session : ι} (opened : installed.session = some session) :
    (installed.teardown engine state).2.2 =
      engine.drop session (engine.call session .close state).2 := by
  rw [Installed.teardown, opened]

/-- What was installed is gone once it is torn down, also if the close was refused: the session
is let go in any case. -/
theorem Installed.teardown_hosts (front : Front outer view) {policy : Policy}
    {installed : Installed SessionId}
    (hosts : Hosts frame (installed.tenant policy :: others) (view state)) :
    Hosts frame others (view (installed.teardown outer state).2.2) := by
  cases opened : installed.session with
  | none =>
    rw [Installed.tenant, opened] at hosts
    rw [Installed.teardown, opened]
    exact hosts_absent.mp hosts
  | some session =>
    have own : (installed.tenant policy).number? = some session := by
      rw [Installed.tenant_of_session opened]
      rfl
    rw [Installed.teardown_state outer opened]
    rcases front.close_hosts hosts own with ⟨_, next, eq, hosted⟩ | ⟨next, eq, hosted⟩
    · rw [eq]
      exact hosts_absent.mp (front.drop_hosts hosted own)
    · rw [eq]
      exact hosts_absent.mp (front.drop_hosts hosted rfl)

end Undisturbed

end TrafficPolicy
