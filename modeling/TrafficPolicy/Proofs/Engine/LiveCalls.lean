import TrafficPolicy.Proofs.Engine.LiveWrites

/-!
# What calls keep

Every call on an engine in memory keeps `Memory.Sound`, whoever makes it, so it holds in every
state that calls can reach (`Memory.Reachable.sound`).
-/

namespace TrafficPolicy

namespace Memory

theorem Sound.write {memory : Memory} (sound : memory.Sound) {session : Session}
    (found : memory.session? session.id = some session) {write : Write}
    (known : memory.Knows write) (fresh : write.mark ∉ memory.live.map Write.mark)
    (later : ∀ stored, write = .filter stored →
      ∀ earlier ∈ session.writes.filterMap Write.stored?, earlier.id < stored.id) :
    (memory.write session write).Sound := by
  cases staged : session.staged with
  | none =>
    rw [Memory.write, staged]
    exact sound.apply (sound.number_le session (session?_eq_some found).1) known fresh
  | some waiting =>
    have writes : session.writes = waiting := by simp [Session.writes, staged]
    simp only [Memory.write, staged]
    exact writes ▸ sound.stage found known fresh later

/-- A key that was not given out marks no live write. -/
theorem Sound.fresh_key {memory : Memory} (sound : memory.Sound) {key : Key}
    (fresh : ¬ memory.Drawn key) :
    Mark.provider key ∉ memory.live.map Write.mark ∧
      Mark.sublayer key ∉ memory.live.map Write.mark := by
  constructor <;> intro inside <;> obtain ⟨write, member, mark⟩ := List.mem_map.mp inside
  · cases write with
    | provider other => exact fresh (Mark.provider.inj mark ▸ sound.known _ member)
    | sublayer other provider => cases mark
    | filter stored => cases mark
  · cases write with
    | provider other => cases mark
    | sublayer other provider => exact fresh (Mark.sublayer.inj mark ▸ (sound.known _ member).1)
    | filter stored => cases mark

/-- A number above all that were given out marks no live write. -/
theorem Sound.fresh_number {memory : Memory} (sound : memory.Sound) {id : FilterId}
    (above : memory.lastFilter < id) : Mark.filter id ∉ memory.live.map Write.mark := by
  intro inside
  obtain ⟨write, member, mark⟩ := List.mem_map.mp inside
  cases write with
  | provider key => cases mark
  | sublayer key provider => cases mark
  | filter stored =>
    exact Nat.not_le.mpr above (Mark.filter.inj mark ▸ (sound.known _ member).1)

theorem Sound.addKey {memory : Memory} (sound : memory.Sound) {session : Session}
    (found : memory.session? session.id = some session) {register : Key → Write}
    (kind : (∀ key, register key = .provider key) ∨
      ∃ provider, memory.Drawn provider ∧ ∀ key, register key = .sublayer key provider) :
    (memory.addKey session register).2.Sound := by
  have fresh := sound.fresh_key memory.not_drawn_next
  let next : Memory := { memory with keysDrawn := memory.keysDrawn + 1 }
  have sound' : next.Sound :=
    sound.grow rfl rfl rfl rfl (Nat.le_refl _) (Nat.le_succ _) (Nat.le_refl _)
  have drawn : next.Drawn (Key.draw memory.keysDrawn) := ⟨_, Nat.lt_succ_self _, rfl⟩
  refine sound'.write found ?_ ?_ fun stored same => ?_
  · rcases kind with provider | ⟨provider, known, sublayer⟩
    · rw [provider]
      exact drawn
    · rw [sublayer]
      exact ⟨drawn, known.mono (Nat.le_succ _)⟩
  · rcases kind with provider | ⟨provider, _, sublayer⟩
    · rw [provider]
      exact fresh.1
    · rw [sublayer]
      exact fresh.2
  · rcases kind with provider | ⟨provider, _, sublayer⟩
    · rw [provider] at same
      cases same
    · rw [sublayer] at same
      cases same

theorem base_of_providerKnown {memory : Memory} {session : Session} {key : Key}
    (known : memory.providerKnown session key = true) :
    Write.provider key ∈ memory.registered ∨ Write.provider key ∈ session.writes := by
  rw [providerKnown, Bool.or_eq_true, List.any_eq_true, List.contains_iff_mem] at known
  rcases known with ⟨entry, inside, same⟩ | waiting
  · exact Or.inl (decide_eq_true_eq.mp same ▸ provider_registered inside)
  · exact Or.inr waiting

theorem base_of_sublayerKnown {memory : Memory} {session : Session} {ns : Namespace}
    (known : memory.sublayerKnown session ns = true) :
    Write.sublayer ns.sublayer ns.provider ∈ memory.registered ∨
      Write.sublayer ns.sublayer ns.provider ∈ session.writes := by
  rw [sublayerKnown, Bool.or_eq_true, List.contains_iff_mem, List.contains_iff_mem] at known
  exact known.imp_left sublayer_registered

/-- What stands in the tables or waits in a session is live. -/
theorem mem_live_of_base {memory : Memory} {session : Session}
    (found : memory.session? session.id = some session) {base : Write}
    (present : base ∈ memory.registered ∨ base ∈ session.writes) : base ∈ memory.live :=
  List.mem_append.mpr (present.imp_right fun waits =>
    List.mem_flatMap.mpr ⟨session, (session?_eq_some found).1, waits⟩)

theorem Sound.drawn_of_providerKnown {memory : Memory} (sound : memory.Sound) {session : Session}
    (found : memory.session? session.id = some session) {key : Key}
    (known : memory.providerKnown session key = true) : memory.Drawn key :=
  sound.known _ (mem_live_of_base found (base_of_providerKnown known))

theorem Sound.drawn_of_sublayerKnown {memory : Memory} (sound : memory.Sound) {session : Session}
    (found : memory.session? session.id = some session) {ns : Namespace}
    (known : memory.sublayerKnown session ns = true) : memory.Drawn ns.provider :=
  (sound.known _ (mem_live_of_base found (base_of_sublayerKnown known))).2

theorem Sound.addFilter {memory : Memory} (sound : memory.Sound) {session : Session}
    (found : memory.session? session.id = some session) (ns : Namespace) (filter : Filter) :
    (memory.addFilter session ns filter).2.Sound := by
  have counted : ({ memory with addFilterCalls := memory.addFilterCalls + 1 } : Memory).Sound :=
    sound.grow rfl rfl rfl rfl (Nat.le_refl _) (Nat.le_refl _) (Nat.le_refl _)
  unfold Memory.addFilter
  dsimp only
  split
  · exact counted
  · split
    · exact counted
    next refused =>
      have known : memory.sublayerKnown session ns = true := by
        rw [Bool.not_eq_true', Bool.not_eq_false] at refused
        exact refused
      have below : memory.lastFilter < memory.lastFilter + 1 := Nat.lt_succ_self _
      let next : Memory := { memory with
        addFilterCalls := memory.addFilterCalls + 1, lastFilter := memory.lastFilter + 1 }
      have sound' : next.Sound :=
        sound.grow rfl rfl rfl rfl (Nat.le_refl _) (Nat.le_refl _) (Nat.le_succ _)
      refine sound'.write found ?_ (sound.fresh_number below) ?_
      · exact ⟨Nat.le_refl _, sound.drawn_of_sublayerKnown found known⟩
      · intro stored same earlier inside
        cases same
        obtain ⟨write, waiting, eq⟩ := List.mem_filterMap.mp inside
        obtain ⟨elsewhere, before, _⟩ := sound.exists_live found
        have old := sound.known write (before.mem_iff.mpr (List.mem_append_left _ waiting))
        cases write with
        | provider key => cases eq
        | sublayer key provider => cases eq
        | filter other =>
          cases eq
          exact Nat.lt_of_le_of_lt old.1 below

/-- A commit moves the waiting writes into the tables. -/
theorem Sound.commit {memory : Memory} (sound : memory.Sound) {session : Session}
    (found : memory.session? session.id = some session) :
    (session.writes.foldl (Memory.apply session.id) (memory.setStaged session.id none)).Sound := by
  have ended : (memory.setStaged session.id none).Sound :=
    sound.setStaged_of_sublist found (List.nil_sublist _)
  refine (ended.foldl_apply (sound.number_le session (session?_eq_some found).1)
    (fun write waiting => ?_) (sound.nodup_unstaged found)).1
  exact (sound.known write (mem_live_of_base found (Or.inr waiting))).mono (Nat.le_refl _)
    (Nat.le_refl _)

theorem Sound.perform {memory : Memory} (sound : memory.Sound) {session : Session}
    (found : memory.session? session.id = some session) (call : Call) :
    (memory.perform session call).2.Sound := by
  cases call with
  | begin =>
    cases staged : session.staged with
    | none =>
      simp only [Memory.perform, staged]
      exact sound.setStaged_of_sublist found (List.nil_sublist _)
    | some waiting =>
      simp only [Memory.perform, staged]
      exact sound
  | commit =>
    cases staged : session.staged with
    | none =>
      simp only [Memory.perform, staged]
      exact sound
    | some waiting =>
      have writes : session.writes = waiting := by simp [Session.writes, staged]
      simp only [Memory.perform, staged]
      split
      · exact sound.setStaged_of_sublist found (List.nil_sublist _)
      · exact writes ▸ sound.commit found
  | abort =>
    cases staged : session.staged with
    | none =>
      simp only [Memory.perform, staged]
      exact sound
    | some waiting =>
      simp only [Memory.perform, staged]
      exact sound.setStaged_of_sublist found (List.nil_sublist _)
  | addProvider name description => exact sound.addKey found (Or.inl fun _ => rfl)
  | addSublayer provider name description =>
    simp only [Memory.perform]
    split
    next known =>
      exact sound.addKey found
        (Or.inr ⟨provider, sound.drawn_of_providerKnown found known, fun _ => rfl⟩)
    · exact sound
  | addFilter ns filter => exact sound.addFilter found ns filter
  | close => exact sound.purge session.id

theorem Sound.call {memory : Memory} (sound : memory.Sound) (id : SessionId) (call : Call) :
    (Memory.call id call memory).2.Sound := by
  cases found : memory.session? id with
  | none =>
    simp only [Memory.call, found]
    exact sound
  | some session =>
    have counted : ({ memory with calls := memory.calls + 1 } : Memory).Sound :=
      sound.grow rfl rfl rfl rfl (Nat.le_refl _) (Nat.le_refl _) (Nat.le_refl _)
    obtain ⟨_, rfl⟩ := session?_eq_some found
    simp only [Memory.call, found]
    exact counted.perform found call

theorem Sound.openSession {memory : Memory} (sound : memory.Sound) :
    memory.openSession.2.Sound := by
  have live : memory.openSession.2.live = memory.live := by
    simp [Memory.live, Memory.openSession, registered, Session.writes]
  constructor
  · simp only [Memory.openSession, List.map_append, List.map_cons, List.map_nil]
    refine List.nodup_append.mpr ⟨sound.numbers_nodup, by simp, ?_⟩
    intro id inside last place same
    obtain ⟨session, member, rfl⟩ := List.mem_map.mp inside
    rw [List.mem_singleton.mp place] at same
    exact Nat.not_succ_le_self _ (same ▸ sound.number_le session member)
  · intro session member
    rcases List.mem_append.mp member with inside | place
    · exact Nat.le_succ_of_le (sound.number_le session inside)
    · rw [List.mem_singleton.mp place]
      exact Nat.le_refl _
  · exact fun entry member => Nat.le_succ_of_le (sound.owner_le entry member)
  · rw [live]
    exact fun write member => (sound.known write member).mono (Nat.le_refl _) (Nat.le_refl _)
  · rw [live]
    exact sound.marks_nodup
  · exact sound.filters_sorted
  · intro session member
    rcases List.mem_append.mp member with inside | place
    · exact sound.staged_sorted session inside
    · rw [List.mem_singleton.mp place]
      exact List.Pairwise.nil

theorem sound_empty : ({} : Memory).Sound := by
  constructor <;> simp [live, registered]

/-- The states that calls of any users lead to from an engine that has just been made.  Sessions
that are dropped are closed, which is a call. -/
inductive Reachable : Memory → Prop where
  | start : Reachable {}
  | openSession {memory : Memory} : memory.Reachable → Reachable memory.openSession.2
  | call {memory : Memory} (id : SessionId) (call : Call) :
    memory.Reachable → Reachable (Memory.call id call memory).2
  | failingAddFilter {memory : Memory} (k : Nat) :
    memory.Reachable → Reachable (memory.failingAddFilter k)
  | failingCommits {memory : Memory} : memory.Reachable → Reachable memory.failingCommits

theorem Reachable.sound {memory : Memory} (reachable : memory.Reachable) : memory.Sound := by
  induction reachable with
  | start => exact sound_empty
  | openSession _ ih => exact ih.openSession
  | call id call _ ih => exact ih.call id call
  | failingAddFilter k _ ih =>
    exact ih.grow rfl rfl rfl rfl (Nat.le_refl _) (Nat.le_refl _) (Nat.le_refl _)
  | failingCommits _ ih =>
    exact ih.grow rfl rfl rfl rfl (Nat.le_refl _) (Nat.le_refl _) (Nat.le_refl _)

end Memory

end TrafficPolicy
