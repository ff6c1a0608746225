import TrafficPolicy.Proofs.Engine.History

/-!
# Integrity of the tables

Nothing should hang in the air: the owners of providers have their sessions open, sublayers hang
under registered providers and filters under registered sublayers (`Memory.Intact`).  The engine
checks the namespace of a write when the write is made.  If a transaction is open then, the write
reaches the tables with the commit, and the provider below it may have been removed in between,
with the session that owned it; the commit checks nothing once more.

That is the only way in which the tables can break: `intact_iff_timely` says that they are intact
after all moves exactly if no commit came too late.  `lateCommit_decides` is about a run in which
one did.  What it leaves behind has no provider any more, so no session that ends takes it away.
-/

namespace TrafficPolicy

namespace Memory

/-- The tables hold nothing that hangs in the air. -/
structure Intact (memory : Memory) : Prop where
  provider_owned : ∀ entry ∈ memory.providers, memory.Opened entry.2
  sublayer_based : ∀ entry ∈ memory.sublayers, ∃ owner, (entry.2, owner) ∈ memory.providers
  filter_based : ∀ stored ∈ memory.filters,
    (stored.ns.sublayer, stored.ns.provider) ∈ memory.sublayers

/-- Intact tables are empty when no session is open, and no packet is decided. -/
theorem Intact.empty {memory : Memory} (intact : memory.Intact) (ended : memory.sessions = []) :
    memory.providers = [] ∧ memory.sublayers = [] ∧ memory.filters = [] ∧
      ∀ packet, memory.classify packet = none := by
  have providers : memory.providers = [] := by
    refine List.eq_nil_iff_forall_not_mem.mpr fun entry member => ?_
    obtain ⟨session, inside, _⟩ := intact.provider_owned entry member
    exact absurd (ended ▸ inside) List.not_mem_nil
  have sublayers : memory.sublayers = [] := by
    refine List.eq_nil_iff_forall_not_mem.mpr fun entry member => ?_
    obtain ⟨owner, above⟩ := intact.sublayer_based entry member
    exact absurd (providers ▸ above) List.not_mem_nil
  have filters : memory.filters = [] := List.eq_nil_iff_forall_not_mem.mpr fun stored member =>
    absurd (sublayers ▸ intact.filter_based stored member) List.not_mem_nil
  refine ⟨providers, sublayers, filters, fun packet => ?_⟩
  simp [classify, decisive?, filters, Stored.strongest?]

/-- A commit that is not made to fail puts what waits in the session into the tables. -/
theorem Sound.registered_of_commit {memory : Memory} (sound : memory.Sound) {id : SessionId}
    {session : Session} (found : memory.session? id = some session)
    (passing : memory.failCommit = false) {write : Write} (waits : write ∈ session.writes) :
    write ∈ (Memory.call id .commit memory).2.registered := by
  obtain ⟨_, rfl⟩ := session?_eq_some found
  cases staged : session.staged with
  | none =>
    rw [Session.writes, staged] at waits
    cases waits
  | some waiting =>
    have writes : session.writes = waiting := by simp [Session.writes, staged]
    have counted : ({ memory with calls := memory.calls + 1 } : Memory).Sound :=
      sound.grow rfl rfl rfl rfl (Nat.le_refl _) (Nat.le_refl _) (Nat.le_refl _)
    simp only [Memory.call, found, Memory.perform, staged, ← writes]
    rw [if_neg (by simp [Memory.setStaged, passing])]
    have tables := registered_foldl_apply session.id (counted.nodup_unstaged found)
    exact tables.mem_iff.mpr (List.mem_append_left _ waits)

end Memory

namespace History

open Memory

/-- A commit of a session would bring nothing into the tables whose root has lost its owner. -/
def Timely (history : History) (id : SessionId) : Prop :=
  history.memory.failCommit = false → ∀ session, history.memory.session? id = some session →
    ∀ write ∈ session.writes, history.Rooted write

/-- All that stands in the tables has a root whose owner is still there. -/
def Grounded (history : History) : Prop :=
  ∀ write ∈ history.memory.registered, history.Rooted write

variable {history : History}

theorem Sound.intact_iff_grounded (sound : history.Sound) :
    history.memory.Intact ↔ history.Grounded := by
  constructor
  · intro intact write member owner owns
    have root : ∃ first, (write.root, first) ∈ history.memory.providers := by
      cases write with
      | provider key => exact provider_mem_registered.mp member
      | sublayer key above => exact intact.sublayer_based _ (sublayer_mem_registered.mp member)
      | filter stored =>
        exact intact.sublayer_based _ (intact.filter_based _ (filter_mem_registered.mp member))
    obtain ⟨first, present⟩ := root
    have granted := sound.provider_granted _ present
    have same : first = owner := congrArg Prod.fst (eq_of_mark sound.marks_nodup granted owns rfl)
    exact same ▸ sound.provider_open _ present
  · intro grounded
    have based : ∀ write ∈ history.memory.registered, ∀ base, write.base? = some base →
        base ∈ history.memory.registered := fun write member =>
      sound.registered_based write member (grounded write member)
    exact {
      provider_owned := sound.provider_open
      sublayer_based := fun entry member =>
        provider_mem_registered.mp (based _ (sublayer_registered member) _ rfl)
      filter_based := fun stored member =>
        sublayer_mem_registered.mp (based _ (filter_registered member) _ rfl) }

/-- Moves that end no session leave roots their owners. -/
theorem Rooted.mono {write : Write} {next : Memory} {id : SessionId} {granted : Option Write}
    (rooted : history.Rooted write)
    (opened : ∀ {other}, history.memory.Opened other → next.Opened other) (here : next.Opened id) :
    History.Rooted ⟨next, history.granted ++ (granted.map (id, ·)).toList⟩ write := by
  intro owner owns
  rcases List.mem_append.mp owns with old | new
  · exact opened (rooted owner old)
  · rw [Option.mem_toList, Option.map_eq_some_iff] at new
    obtain ⟨write, _, same⟩ := new
    have owner_eq : id = owner := congrArg Prod.fst same
    exact owner_eq ▸ here

theorem rooted_of_base? {write base : Write} (under : write.base? = some base)
    (rooted : history.Rooted base) : history.Rooted write :=
  fun owner owns => rooted owner (Write.root_of_base? under ▸ owns)

/-- A new write is as well rooted as its base. -/
theorem Sound.rooted_new (sound : history.Sound) {write : Write}
    (new : history.memory.New write)
    (based : ∀ base, write.base? = some base → history.Rooted base) : history.Rooted write := by
  cases under : write.base? with
  | some base => exact rooted_of_base? under (based base under)
  | none =>
    intro owner owns
    have known : history.memory.Knows (.provider write.root) := sound.known _ owns
    cases write with
    | provider key => exact absurd known new
    | sublayer key above => cases under
    | filter stored => cases under

/-- Only a commit can bring writes into the tables whose roots have lost their owners. -/
theorem Sound.grounded_call (sound : history.Sound) (grounded : history.Grounded)
    {id : SessionId} {call : Call} (timely : call = .commit → history.Timely id) :
    (history.after (.call id call)).Grounded := by
  cases found : history.memory.session? id with
  | none =>
    obtain ⟨none, same⟩ := call_of_not_opened (session?_eq_none_iff_not_opened.mp found) call
    simpa only [History.after, none, same, Option.map_none, Option.toList_none, List.append_nil]
      using grounded
  | some session =>
    obtain ⟨member, rfl⟩ := session?_eq_some found
    have new : ∀ write, call.granted (Memory.call session.id call history.memory).1 = some write →
        history.memory.New write ∧ history.memory.Based session write :=
      fun write granted => call_granted found granted
    have effect := sound.memory.call_effect found call
    rw [History.after]
    generalize call.granted (Memory.call session.id call history.memory).1 = granted at new effect ⊢
    generalize (Memory.call session.id call history.memory).2 = next at effect ⊢
    intro write member
    cases effect with
    | keep staged moved waiting moving landed sessions registered providers =>
      have opened : ∀ {other}, history.memory.Opened other → next.Opened other :=
        (opened_of_setStaged sessions).mpr
      refine Rooted.mono ?_ opened (opened (opened_of_session? found))
      rcases List.mem_append.mp (registered.mem_iff.mp member) with moves | old
      · rcases moving with nothing | ⟨commit, passing, all⟩ | ⟨added, is, idle, only⟩
        · rw [nothing] at moves
          cases moves
        · exact timely commit passing session found write (all ▸ moves)
        · rw [only, List.mem_singleton] at moves
          refine sound.rooted_new (moves ▸ (new added is).1) fun base under => ?_
          rcases (new added is).2 base (moves ▸ under) with before | beside
          · exact grounded base before
          · rw [idle] at beside
            cases beside
      · exact grounded write old
    | close sessions registered providers =>
      obtain ⟨before, apart⟩ := (registered write).mp member
      intro owner owns
      rw [Option.map_none, Option.toList_none, List.append_nil] at owns
      have opened := grounded write before owner owns
      refine (opened_of_filter sessions).mpr ⟨opened, fun same => apart ?_⟩
      exact same ▸ sound.provider_of_owner before opened owns

theorem Sound.grounded_after (sound : history.Sound) (grounded : history.Grounded) {move : Move}
    (timely : ∀ id, move = .call id .commit → history.Timely id) :
    (history.after move).Grounded := by
  cases move with
  | openSession =>
    intro write member owner owns
    obtain ⟨session, inside, same⟩ := grounded write member owner owns
    exact ⟨session, List.mem_append_left _ inside, same⟩
  | call id call => exact sound.grounded_call grounded fun commit => timely id (by rw [commit])
  | drop id =>
    exact history.after_drop id ▸ sound.grounded_call grounded fun commit => nomatch commit
  | rearm k failing => exact grounded

/-- What a commit that passes brings into intact tables was still rooted. -/
theorem Sound.timely_of_grounded (sound : history.Sound) {id : SessionId}
    (grounded : (history.after (.call id .commit)).Grounded) : history.Timely id := by
  intro passing session found write waits owner owns
  have stands := sound.memory.registered_of_commit found passing waits
  have opened := grounded write stands owner (List.mem_append_left _ owns)
  obtain ⟨_, rfl⟩ := session?_eq_some found
  exact (sound.memory.call_effect found .commit).opened opened

/-- After any moves the owners of providers have their sessions open, and tables that are intact
are empty once no session is open.  The tables have been intact all along exactly if no commit
brought in a write after the session had ended that owned the provider below it. -/
theorem intact_iff_timely (moves : List Move) :
    (∀ entry ∈ (run moves).memory.providers, (run moves).memory.Opened entry.2) ∧
      ((∀ earlier, earlier <+: moves → (run earlier).memory.Intact) ↔
        ∀ earlier id, earlier ++ [.call id .commit] <+: moves → (run earlier).Timely id) ∧
      ((run moves).memory.Intact → (run moves).memory.sessions = [] →
        (run moves).memory.providers = [] ∧ (run moves).memory.sublayers = [] ∧
          (run moves).memory.filters = [] ∧
          ∀ packet, (run moves).memory.classify packet = none) := by
  refine ⟨(sound_run moves).provider_open, ⟨fun intact earlier id early => ?_, ?_⟩,
    fun intact ended => intact.empty ended⟩
  · have after := (sound_run _).intact_iff_grounded.mp (intact _ early)
    rw [run_concat] at after
    exact (sound_run earlier).timely_of_grounded after
  · intro timely earlier
    induction earlier using List.reverseRecOn with
    | nil =>
      exact fun _ => (sound_run []).intact_iff_grounded.mpr (by simp [Grounded, run, registered])
    | append_singleton before move ih =>
      intro early
      have grounded := (sound_run before).intact_iff_grounded.mp
        (ih ((List.prefix_append before [move]).trans early))
      refine (sound_run _).intact_iff_grounded.mpr ?_
      rw [run_concat]
      exact (sound_run before).grounded_after grounded fun id commit =>
        timely before id (commit ▸ early)

/-- A run in which a filter waits under the provider of a session that ends before the commit. -/
def lateCommit : List Move :=
  let provider := Key.draw 0
  let sublayer := Key.draw 1
  [.openSession, .openSession,
    .call 1 (.addProvider "provider" ""), .call 1 (.addSublayer provider "sublayer" ""),
    .call 2 .begin,
    .call 2 (.addFilter ⟨provider, sublayer⟩ ⟨.connectV4, .block, 1, [], "filter"⟩),
    .call 1 .close, .call 2 .commit, .call 2 .close]

/-- No session is open any more and the filter still decides packets. -/
theorem lateCommit_decides :
    (run lateCommit).memory.sessions = [] ∧ (run lateCommit).memory.providers = [] ∧
      (run lateCommit).memory.sublayers = [] ∧ (run lateCommit).memory.filters.length = 1 ∧
      (run lateCommit).memory.classify (.outbound (.v4 0x09090909) 443 6) = some .block := by
  decide +kernel

end History

end TrafficPolicy
