import TrafficPolicy.Proofs.Engine.Closing
import TrafficPolicy.Proofs.Install.Concurrent
import TrafficPolicy.Proofs.Install.Conversation
import TrafficPolicy.Proofs.Policy.Compile

/-!
# Policies that are torn down

An owner may tear a policy down as often as it likes, and lets it go in the end.  Only the first
time is anything said to the engine: the session is closed and let go, whatever the engine answers
(`Installed.ends_once`).

A close that is refused on its way does not reach the engine in memory, but the session that is let
go closes itself.  So through any front the engine is left as if that session had been closed once
(`Memory.Front.release_rearmed`).  Then all is gone that belonged to the policy, and what belongs to
others is still there (`SharedEngine.Sound.vacated`).
-/

namespace TrafficPolicy

/-! ## What is said to the engine -/

namespace Installed

variable {σ ι : Type} {installed : Installed ι} {session : ι}

/-- Tears a policy down a number of times, and gives all outcomes. -/
def teardowns (engine : Engine σ ι) :
    Nat → Installed ι → σ → List (Except PolicyError Unit) × Installed ι × σ
  | 0, installed, state => ([], installed, state)
  | n + 1, installed, state =>
    let first := installed.teardown engine state
    let others := teardowns engine n first.2.1 first.2.2
    (first.1 :: others.1, others.2)

/-- Tears a policy down a number of times and lets it go. -/
def ended (engine : Engine σ ι) (n : Nat) (installed : Installed ι) (state : σ) : σ :=
  let torn := teardowns engine n installed state
  torn.2.1.drop engine torn.2.2

/-- The policy without its session. -/
def spent (installed : Installed ι) : Installed ι :=
  { installed with session := none }

theorem teardown_eq (engine : Engine σ ι) (opened : installed.session = some session) (state : σ) :
    installed.teardown engine state =
      ((engine.call session .close state).1.mapError (.install "close_session"), installed.spent,
        engine.release session state) := by
  rw [teardown, opened]
  rfl

/-- Nothing happens to a policy that is over. -/
theorem teardowns_spent (engine : Engine σ ι) (n : Nat) (state : σ) :
    teardowns engine n installed.spent state =
      (List.replicate n (.ok ()), installed.spent, state) := by
  induction n with
  | zero => rfl
  | succ n ih => exact congrArg (fun torn => (.ok () :: torn.1, torn.2)) ih

theorem teardowns_succ (engine : Engine σ ι) (opened : installed.session = some session) (n : Nat)
    (state : σ) :
    teardowns engine (n + 1) installed state =
      ((engine.call session .close state).1.mapError (.install "close_session") ::
        List.replicate n (.ok ()), installed.spent, engine.release session state) := by
  rw [teardowns, teardown_eq engine opened]
  dsimp only
  rw [teardowns_spent]

theorem ended_eq (engine : Engine σ ι) (opened : installed.session = some session) (n : Nat)
    (state : σ) : ended engine n installed state = engine.release session state := by
  cases n with
  | zero =>
    rw [ended, teardowns, drop, teardown_eq engine opened]
  | succ n =>
    rw [ended, teardowns_succ engine opened]
    rfl

/-- How a policy that has a session ends: what its owner is told, and what is said to the engine. -/
structure EndsOnce (engine : Engine σ ι) (installed : Installed ι) (session : ι) (state : σ) :
    Prop where
  /-- Only the first teardown can fail, if the engine refuses to close the session. -/
  outcomes : ∀ n, (teardowns engine (n + 1) installed state).1 =
    (engine.call session .close state).1.mapError (.install "close_session") ::
      List.replicate n (.ok ())
  /-- The first teardown leaves the policy without its session, and the others leave it so. -/
  left : ∀ n, (teardowns engine (n + 1) installed state).2 =
    (installed.spent, engine.release session state)
  inactive : installed.spent.isActive = false
  /-- The session is closed with one call and let go, whether that is done by the first of many
  teardowns or when the policy is let go. -/
  said : ∀ n log, ended engine.transcribed n installed (state, log) =
    (engine.release session state,
      log ++ [.answered (.call session .close) (engine.call session .close state).1,
        .dropped session])
  /-- After the first teardown no engine is called any more. -/
  inert : ∀ {τ : Type} (other : Engine τ ι) (there : τ),
    installed.spent.teardown other there = (.ok (), installed.spent, there) ∧
      installed.spent.drop other there = there

/-- Any policy that has a session ends so. -/
theorem ends_once (engine : Engine σ ι) (opened : installed.session = some session) (state : σ) :
    EndsOnce engine installed session state where
  outcomes n := by rw [teardowns_succ engine opened]
  left n := by rw [teardowns_succ engine opened]
  inactive := rfl
  said n log := by
    rw [ended_eq engine.transcribed opened]
    refine Prod.ext rfl ?_
    exact List.append_assoc log [_] [_]
  inert other there := ⟨rfl, rfl⟩

end Installed

/-! ## What is left of the engine -/

namespace Memory

variable {σ : Type} {outer : Engine σ SessionId} {view : σ → Memory} {state : σ}
  {session : SessionId}

/-- The engine once an open session is closed. -/
def closed (session : SessionId) (memory : Memory) : Memory :=
  { memory with calls := memory.calls + 1 }.purge session

section Rearmed

variable {memory next last : Memory}

theorem Rearmed.trans (first : memory.Rearmed next) (second : next.Rearmed last) :
    memory.Rearmed last := by
  obtain ⟨_, _, rfl⟩ := first
  obtain ⟨k, failing, rfl⟩ := second
  exact ⟨k, failing, rfl⟩

theorem Rearmed.closed (rearmed : memory.Rearmed next) :
    (memory.closed session).Rearmed (next.closed session) := by
  obtain ⟨k, failing, rfl⟩ := rearmed
  exact ⟨k, failing, rfl⟩

theorem Rearmed.opened (rearmed : memory.Rearmed next) (opened : memory.Opened session) :
    next.Opened session := by
  obtain ⟨_, _, rfl⟩ := rearmed
  exact opened

theorem not_opened_closed (session : SessionId) (memory : Memory) :
    ¬ (memory.closed session).Opened session :=
  fun here => ((opened_of_filter rfl).mp here).2 rfl

end Rearmed

/-- Through any front, a session that is closed and let go ends once: by the close if it reaches the
engine, and otherwise when it is let go. -/
theorem Front.release_rearmed (front : Front outer view) (opened : (view state).Opened session) :
    ((view state).closed session).Rearmed (view (outer.release session state)) := by
  obtain ⟨armed, first, relayed⟩ := front.call session .close state
  obtain ⟨armed', second, dropped⟩ := front.drop session (outer.call session .close state).2
  have ends : ∀ {memory : Memory}, memory.Opened session →
      (Memory.call session .close memory).2 = memory.closed session := call_close
  rw [Engine.release, dropped]
  change Rearmed _ (Memory.call session .close armed').2
  rcases relayed with ⟨error, _, same⟩ | ⟨_, same⟩
  · rw [same] at second
    have rearmed := first.trans second
    rw [ends (rearmed.opened opened)]
    exact rearmed.closed
  · rw [same, ends (first.opened opened)] at second
    have unopened : ¬ armed'.Opened session := by
      obtain ⟨_, _, rfl⟩ := second
      exact not_opened_closed session armed
    rw [(call_of_not_opened unopened .close).2]
    exact first.closed.trans second

end Memory

/-- All that belongs to an installed policy is in the engine: its session is open, its provider and
its sublayer are registered, and under them are its filters, in order and with its numbers. -/
structure Installed.Stands (policy : Policy) (installed : Installed SessionId) (memory : Memory) :
    Prop where
  session : ∃ session, installed.session = some session ∧
    memory.session? session = some ⟨session, none⟩ ∧
    (installed.ns.provider, session) ∈ memory.providers
  sublayer : (installed.ns.sublayer, installed.ns.provider) ∈ memory.sublayers
  filters : (memory.filtersIn installed.ns).map (·.filter) = policy.filters
  ids : (memory.filtersIn installed.ns).map (·.id) = installed.ids

/-- What the end of a policy makes of an engine: all is gone that belonged to it, and all else is
still there. -/
structure Installed.Vacated (installed : Installed SessionId) (session : SessionId)
    (before after : Memory) : Prop where
  sessions : after.sessions = before.sessions.filter (·.id ≠ session)
  providers : after.providers = before.providers.filter (·.1 ≠ installed.ns.provider)
  sublayers : after.sublayers = before.sublayers.filter (·.2 ≠ installed.ns.provider)
  filters : after.filters = before.filters.filter (·.ns.provider ≠ installed.ns.provider)
  /-- Nothing is left that belongs to the session, to the sublayer or to one of the numbers. -/
  owned_gone : ∀ entry ∈ after.providers, entry.2 ≠ session
  sublayer_gone : ∀ entry ∈ after.sublayers, entry.1 ≠ installed.ns.sublayer
  ids_gone : ∀ stored ∈ after.filters, stored.id ∉ installed.ids

namespace SharedEngine

open Memory

variable {shared : SharedEngine}

/-- A policy in force has all that belongs to it. -/
theorem Sound.stands (sound : shared.Sound) {run : Run SessionId} (member : run ∈ shared.runs)
    {installed : Installed SessionId} (force : run.inForce? = some installed) :
    installed.Stands run.policy shared.memory := by
  obtain ⟨session, opened, _, tenant⟩ :=
    Run.settled_of_inForce? (sound.consistent run member) force
  have held : (run.policy, installed) ∈ shared.inForce :=
    List.mem_filterMap.mpr ⟨run, member, by rw [force]; rfl⟩
  obtain ⟨full, filters⟩ := sound.filtersIn_eq held
  obtain ⟨contents, numbers⟩ := @Namespace.map_stored installed.ns _ _ full
  have place : run.tenant ∈ shared.runs.map Run.tenant := List.mem_map_of_mem member
  rw [tenant] at place
  refine ⟨⟨session, opened, ?_, ?_⟩, ?_, filters ▸ contents, filters ▸ numbers⟩
  · exact sound.hosts.session_tenant _ place ⟨session, none⟩ rfl
  · exact (sound.hosts.providers _).mpr (Or.inr ⟨_, place, List.mem_singleton_self _⟩)
  · exact (sound.hosts.sublayers _).mpr (Or.inr ⟨_, place, List.mem_singleton_self _⟩)

variable {memory after : Memory} {earlier later : List (Run SessionId)} {run : Run SessionId}
  {installed : Installed SessionId} {session : SessionId}

/-- Closing the session of a policy in force takes away what goes by the provider of the policy, and
nothing else. -/
theorem Sound.tables_closed (sound : Sound ⟨memory, earlier ++ run :: later⟩)
    (force : run.inForce? = some installed) (opened : installed.session = some session) :
    (memory.closed session).providers =
        memory.providers.filter (·.1 ≠ installed.ns.provider) ∧
      (memory.closed session).sublayers =
        memory.sublayers.filter (·.2 ≠ installed.ns.provider) ∧
      (memory.closed session).filters =
        memory.filters.filter (·.ns.provider ≠ installed.ns.provider) := by
  have member : run ∈ earlier ++ run :: later := List.mem_append_right _ List.mem_cons_self
  obtain ⟨_, is, _, tenant⟩ := Run.settled_of_inForce? (sound.consistent run member) force
  cases opened.symm.trans is
  have hosts := sound.hosts.perm (List.perm_middle.map Run.tenant)
  rw [List.map_cons, tenant] at hosts
  have gone : ∀ key, (memory.providers.any fun entry => entry.1 = key && entry.2 = session) =
      decide (key = installed.ns.provider) := by
    intro key
    rw [Bool.eq_iff_iff, gone_iff, decide_eq_true_iff, hosts.mem_providers_iff rfl,
      Tenant.providers, List.mem_singleton]
    exact ⟨congrArg Prod.fst, fun same => congrArg (·, session) same⟩
  simp only [closed, purge, gone, decide_not, and_self]

/-- When the session of a policy in force ends, all is gone that belonged to the policy. -/
theorem Sound.vacated (sound : Sound ⟨memory, earlier ++ run :: later⟩)
    (force : run.inForce? = some installed) (opened : installed.session = some session)
    (rearmed : (memory.closed session).Rearmed after) :
    installed.Vacated session memory after := by
  have member : run ∈ earlier ++ run :: later := List.mem_append_right _ List.mem_cons_self
  obtain ⟨⟨_, is, _, _⟩, sublayer, _, ids⟩ := sound.stands member force
  cases opened.symm.trans is
  obtain ⟨providers, sublayers, filters⟩ := sound.tables_closed force opened
  have tables := sound.hosts.sound
  obtain ⟨k, failing, rfl⟩ := rearmed
  refine ⟨rfl, providers, sublayers, filters, fun entry left same => ?_, fun entry left same => ?_,
    fun stored left given => ?_⟩
  · obtain ⟨inside, apart⟩ := mem_providers_purge.mp left
    exact apart (same ▸ inside)
  · change entry ∈ (memory.closed session).sublayers at left
    rw [sublayers, List.mem_filter, decide_eq_true_iff] at left
    obtain ⟨inside, apart⟩ := left
    have eq := List.inj_on_of_nodup_map tables.sublayers_nodup inside sublayer same
    exact apart (congrArg Prod.snd eq)
  · change stored ∈ (memory.closed session).filters at left
    rw [filters, List.mem_filter, decide_eq_true_iff] at left
    obtain ⟨inside, apart⟩ := left
    rw [← ids] at given
    obtain ⟨other, place, same⟩ := List.mem_map.mp given
    obtain ⟨there, under⟩ := List.mem_filter.mp place
    have distinct : (memory.filters.map (·.id)).Nodup :=
      List.pairwise_map.mpr (tables.filters_sorted.imp Nat.ne_of_lt)
    cases List.inj_on_of_nodup_map distinct there inside same
    exact apart (congrArg Namespace.provider (of_decide_eq_true under))

variable {σ : Type} {outer : Engine σ SessionId} {view : σ → Memory} {state : σ}
  {options : InstallOptions} {policy : Policy}

/-- A policy that is torn down through any front is gone, and the others go on. -/
theorem Reachable.release (front : Front outer view)
    (reachable : Reachable ⟨view state,
      earlier ++ ⟨options, policy, .installing (.finished (.ok installed))⟩ :: later⟩)
    (opened : installed.session = some session) :
    Reachable
      ⟨view (outer.release session state), earlier ++ ⟨options, policy, .gone⟩ :: later⟩ := by
  obtain ⟨armed, first, relayed⟩ := front.call session .close state
  obtain ⟨armed', second, dropped⟩ := front.drop session (outer.call session .close state).2
  have ready := Reachable.step reachable (.rearm first)
  have closing : ∃ closed, Reachable ⟨view (outer.call session .close state).2,
      earlier ++ ⟨options, policy, .releasing installed session closed⟩ :: later⟩ := by
    rcases relayed with ⟨error, _, same⟩ | ⟨_, same⟩
    · rw [same]
      exact ⟨_, .step ready (.call (some error) (.close armed opened))⟩
    · rw [same]
      exact ⟨_, .step ready (.call none (.close armed opened))⟩
  obtain ⟨closed, closing⟩ := closing
  rw [Engine.release, dropped]
  exact .step (.step closing (.rearm second)) (.call none (.letGo armed'))

/-- A policy was installed in an engine in memory, beside any others and through any fronts, and is
torn down any number of times and let go.  Its session is closed once, and only the first teardown
can fail.  Then it is over, whether that failed or not: all is gone that belonged to it, and all
that belongs to other policies in force stands as it did before. -/
theorem torn_down_once (front : Front outer view)
    (reachable : Reachable ⟨view state,
      earlier ++ ⟨options, policy, .installing (.finished (.ok installed))⟩ :: later⟩) :
    ∃ session, installed.session = some session ∧
      installed.EndsOnce outer session state ∧
      installed.Vacated session (view state) (view (outer.release session state)) ∧
      (∀ run ∈ earlier ++ later, ∀ other, run.inForce? = some other →
        other.Stands run.policy (view state) ∧
          other.Stands run.policy (view (outer.release session state)) ∧
          (view (outer.release session state)).filtersIn other.ns =
            (view state).filtersIn other.ns) ∧
      Reachable ⟨view (outer.release session state),
        earlier ++ ⟨options, policy, .gone⟩ :: later⟩ := by
  have sound := reachable.sound
  have member : (⟨options, policy, .installing (.finished (.ok installed))⟩ : Run SessionId) ∈
      earlier ++ ⟨options, policy, .installing (.finished (.ok installed))⟩ :: later :=
    List.mem_append_right _ List.mem_cons_self
  obtain ⟨⟨session, opened, found, _⟩, _⟩ := sound.stands member rfl
  have rearmed := front.release_rearmed (opened_of_session? found)
  have next := reachable.release front opened
  refine ⟨session, opened, installed.ends_once outer opened state, sound.vacated rfl opened rearmed,
    fun run inside other force => ?_, next⟩
  have among : ∀ middle : Run SessionId, run ∈ earlier ++ middle :: later := fun middle =>
    (List.mem_append.mp inside).elim (List.mem_append_left _)
      fun behind => List.mem_append_right _ (List.mem_cons_of_mem _ behind)
  have held : ∀ {memory : Memory} {middle : Run SessionId},
      (run.policy, other) ∈ inForce ⟨memory, earlier ++ middle :: later⟩ := fun {_ middle} =>
    List.mem_filterMap.mpr ⟨run, among middle, by rw [force]; rfl⟩
  refine ⟨sound.stands (among _) force, next.sound.stands (among _) force, ?_⟩
  exact (next.sound.filtersIn_eq held).2.trans (sound.filtersIn_eq held).2.symm

/-- The close of one of two policies is refused: the first teardown fails and the second does not,
and the other policy stands. -/
theorem torn_down_beside_another :
    let policy : Policy :=
      ⟨[⟨"AllTraffic", .block, ⟨1, none⟩, [⟨.connectV4, .block, 1, [], "block"⟩]⟩]⟩
    let refusal : EngineError := ⟨7, "busy"⟩
    let outer := Memory.engine.refusing refusal
    let first := policy.install Memory.engine {} {}
    let second := policy.install Memory.engine {} first.2
    ∃ installed other, first.1 = .ok installed ∧ second.1 = .ok other ∧
      (Installed.teardowns outer 2 installed second.2).1 =
        [.error (.install "close_session" refusal), .ok ()] ∧
      second.2.filters.length = 2 ∧
      (∀ stored ∈ (Installed.ended outer 2 installed second.2).filters,
        stored.id ∉ installed.ids) ∧
      other.Stands policy (Installed.ended outer 2 installed second.2) := by
  intro policy refusal outer first second
  obtain ⟨installed, one⟩ : ∃ installed, first.1 = .ok installed :=
    exists_eq_ok (by decide +kernel)
  obtain ⟨other, two⟩ : ∃ other, second.1 = .ok other :=
    exists_eq_ok (by decide +kernel)
  have count : second.2.filters.length = 2 := by decide +kernel
  have alone : Reachable ⟨first.2, [⟨{}, policy, .installing (.finished first.1)⟩]⟩ :=
    @Reachable.steps _ _ [] [] _ _ none (.step .start (.start {} policy))
      (Run.exists_steps_eq_install Memory.engine {} policy {})
  have both : Reachable ⟨second.2, [⟨{}, policy, .installing (.finished first.1)⟩,
      ⟨{}, policy, .installing (.finished second.1)⟩]⟩ :=
    @Reachable.steps _ _ [_] [] _ _ none (.step alone (.start {} policy))
      (Run.exists_steps_eq_install Memory.engine {} policy first.2)
  rw [one, two] at both
  clear_value first second
  obtain ⟨session, opened, ends, vacated, others, _⟩ :=
    @torn_down_once [] [_] installed _ _ id second.2 {} policy (front_refusing refusal) both
  have stands := others _ (List.mem_singleton_self _) other rfl
  refine ⟨installed, other, one, two, ends.outcomes 1, count, ?_, ?_⟩
  · rw [Installed.ended_eq outer opened]
    exact vacated.ids_gone
  · rw [Installed.ended_eq outer opened]
    exact stands.2.1

end SharedEngine

end TrafficPolicy
