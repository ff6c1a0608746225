import TrafficPolicy.Proofs.Engine.LiveCalls

/-!
# Effects of calls

A call on an open session does one of two things to the sessions and the tables of an engine in
memory, whatever it counts besides.  Either it ends the session, or some writes reach the tables
and some wait from then on, and nothing that stood in the tables goes.  `Memory.Effect` says which
writes these can be, and `Sound.call_effect` that no call does anything else.

A write stands on another one, its base: a sublayer on its provider, a filter on the sublayer of
its namespace.  `Write.root` is the provider at the bottom of that.  What a session is granted
(`Call.granted`) is new to the engine, and its base was there when it was granted.
-/

namespace TrafficPolicy

namespace Write

/-- The provider that a write registers or hangs under. -/
def root : Write → Key
  | provider key => key
  | sublayer _ above => above
  | filter stored => stored.ns.provider

/-- The write that another one stands on. -/
def base? : Write → Option Write
  | provider _ => none
  | sublayer _ above => some (.provider above)
  | filter stored => some (.sublayer stored.ns.sublayer stored.ns.provider)

theorem root_of_base? {write base : Write} (under : write.base? = some base) :
    base.root = write.root := by
  cases write <;> cases under <;> rfl

end Write

/-- The write that an answer to a call grants, under the key or number that it gives. -/
def Call.granted : (call : Call) → Except EngineError call.Reply → Option Write
  | addProvider .., .ok key => some (.provider key)
  | addSublayer provider .., .ok key => some (.sublayer key provider)
  | addFilter ns filter, .ok id => some (.filter ⟨id, ns, filter⟩)
  | begin, _ | commit, _ | abort, _ | close, _ => none
  | addProvider .., .error _ | addSublayer .., .error _ | addFilter .., .error _ => none

namespace Memory

/-- A session is open. -/
def Opened (memory : Memory) (id : SessionId) : Prop :=
  ∃ session ∈ memory.sessions, session.id = id

theorem session?_eq_none_iff_not_opened {memory : Memory} {id : SessionId} :
    memory.session? id = none ↔ ¬ memory.Opened id := by
  rw [session?_eq_none_iff, Opened]
  grind

theorem opened_of_session? {memory : Memory} {id : SessionId} {session : Session}
    (found : memory.session? id = some session) : memory.Opened id :=
  ⟨session, session?_eq_some found⟩

theorem opened_iff_mem {memory : Memory} {id : SessionId} :
    memory.Opened id ↔ id ∈ memory.sessions.map (·.id) := by
  simp [Opened]

theorem opened_of_setStaged {memory next : Memory} {id : SessionId} {staged : Option (List Write)}
    (sessions : next.sessions = (memory.setStaged id staged).sessions) {other : SessionId} :
    next.Opened other ↔ memory.Opened other := by
  rw [opened_iff_mem, opened_iff_mem, sessions, map_id_setStaged]

theorem opened_of_filter {memory next : Memory} {id : SessionId}
    (sessions : next.sessions = memory.sessions.filter (·.id ≠ id)) {other : SessionId} :
    next.Opened other ↔ memory.Opened other ∧ other ≠ id := by
  rw [Opened, Opened, sessions]
  constructor
  · rintro ⟨session, member, rfl⟩
    obtain ⟨inside, differs⟩ := List.mem_filter.mp member
    exact ⟨⟨session, inside, rfl⟩, of_decide_eq_true differs⟩
  · rintro ⟨⟨session, inside, rfl⟩, differs⟩
    exact ⟨session, List.mem_filter.mpr ⟨inside, decide_eq_true differs⟩, rfl⟩

/-- A mark that no write has had yet. -/
def New (memory : Memory) : Write → Prop
  | .provider key => ¬ memory.Drawn key
  | .sublayer key _ => ¬ memory.Drawn key
  | .filter stored => memory.lastFilter < stored.id

theorem New.mark_ne {memory : Memory} {write other : Write} (new : memory.New write)
    (known : memory.Knows other) : other.mark ≠ write.mark := by
  intro same
  cases write with
  | provider key =>
    cases other with
    | provider old => exact new (Mark.provider.inj same ▸ known)
    | _ => cases same
  | sublayer key above =>
    cases other with
    | sublayer old above => exact new (Mark.sublayer.inj same ▸ known.1)
    | _ => cases same
  | filter stored =>
    cases other with
    | filter old => exact Nat.not_le.mpr new (Mark.filter.inj same ▸ known.1)
    | _ => cases same

/-- The base of a write is in the tables or waits in the same session. -/
def Based (memory : Memory) (session : Session) (write : Write) : Prop :=
  ∀ base, write.base? = some base → base ∈ memory.registered ∨ base ∈ session.writes

/-- Counters do not go back. -/
structure Grows (memory next : Memory) : Prop where
  lastSession : memory.lastSession ≤ next.lastSession
  keysDrawn : memory.keysDrawn ≤ next.keysDrawn
  lastFilter : memory.lastFilter ≤ next.lastFilter

/-- What a call can do to sessions and tables, if it grants this write or none. -/
inductive Effect (memory : Memory) (session : Session) :
    Call → Option Write → Memory → Prop
  /-- The writes `moved` reach the tables, and the writes `staged` wait from then on.  What is
  granted is among them. -/
  | keep {call : Call} {granted : Option Write} {next : Memory} (staged : Option (List Write))
    (moved : List Write)
    (waiting : staged.getD [] = [] ∨ staged.getD [] = session.writes ∨
      ∃ write, granted = some write ∧ staged.getD [] = session.writes ++ [write])
    (moving : moved = [] ∨
      (call = .commit ∧ memory.failCommit = false ∧ moved = session.writes) ∨
      ∃ write, granted = some write ∧ session.writes = [] ∧ moved = [write])
    (landed : ∀ write, granted = some write → write ∈ moved ∨ write ∈ staged.getD [])
    (sessions : next.sessions = (memory.setStaged session.id staged).sessions)
    (registered : next.registered.Perm (moved ++ memory.registered))
    (providers : ∀ entry, entry ∈ next.providers ↔
      entry ∈ memory.providers ∨ Write.provider entry.1 ∈ moved ∧ entry.2 = session.id) :
    Effect memory session call granted next
  /-- The session ends, and what hangs under its providers goes. -/
  | close {next : Memory}
    (sessions : next.sessions = memory.sessions.filter (·.id ≠ session.id))
    (registered : ∀ write, write ∈ next.registered ↔
      write ∈ memory.registered ∧ (write.root, session.id) ∉ memory.providers)
    (providers : ∀ entry, entry ∈ next.providers ↔
      entry ∈ memory.providers ∧ (entry.1, session.id) ∉ memory.providers) :
    Effect memory session .close none next

/-- No call opens a session. -/
theorem Effect.opened {memory next : Memory} {session : Session} {call : Call}
    {granted : Option Write} (effect : Effect memory session call granted next)
    {other : SessionId} (opened : next.Opened other) : memory.Opened other := by
  cases effect with
  | keep staged moved waiting moving landed sessions =>
    exact (opened_of_setStaged sessions).mp opened
  | close sessions => exact ((opened_of_filter sessions).mp opened).1

/-- What a session has moved or waiting after a call: nothing, or what waited before, with the write
that was granted or without it. -/
def Carried (session : Session) (granted : Option Write) (list : List Write) : Prop :=
  list = [] ∨ list = session.writes ∨
    ∃ write, granted = some write ∧ list = session.writes ++ [write]

section Carried

variable {session : Session} {granted : Option Write} {list : List Write} {write : Write}

/-- What moves is carried, whether it waited before or is granted now. -/
theorem Carried.of_moving {memory : Memory} {call : Call}
    (moving : list = [] ∨ (call = .commit ∧ memory.failCommit = false ∧ list = session.writes) ∨
      ∃ write, granted = some write ∧ session.writes = [] ∧ list = [write]) :
    Carried session granted list := by
  refine moving.imp_right (Or.imp (·.2.2) ?_)
  rintro ⟨write, is, nothing, only⟩
  exact ⟨write, is, by rw [nothing, only, List.nil_append]⟩

theorem Carried.mem (carried : Carried session granted list) (member : write ∈ list) :
    write ∈ session.writes ∨ granted = some write := by
  rcases carried with rfl | rfl | ⟨added, is, rfl⟩
  · cases member
  · exact Or.inl member
  · rw [List.mem_append, List.mem_singleton] at member
    rcases member with waited | rfl
    · exact Or.inl waited
    · exact Or.inr is

/-- What waited before stays beside whatever is carried. -/
theorem Carried.mem_of_writes (carried : Carried session granted list) (member : write ∈ list)
    {other : Write} (waited : other ∈ session.writes) : other ∈ list := by
  rcases carried with rfl | rfl | ⟨added, _, rfl⟩
  · cases member
  · exact waited
  · exact List.mem_append_left _ waited

/-- A session was granted all that it has moved or waiting. -/
theorem Carried.mem_granted {earlier : List (SessionId × Write)}
    (carried : Carried session granted list)
    (waited : ∀ write ∈ session.writes, (session.id, write) ∈ earlier) (member : write ∈ list) :
    (session.id, write) ∈ earlier ++ (granted.map (session.id, ·)).toList := by
  rcases carried.mem member with before | is
  · exact List.mem_append_left _ (waited write before)
  · rw [is]
    exact List.mem_append_right _ (List.mem_singleton_self _)

end Carried

/-! ## What stands in the tables -/

section Tables

variable {memory next : Memory}

@[simp]
theorem provider_mem_registered {key : Key} :
    Write.provider key ∈ memory.registered ↔ ∃ owner, (key, owner) ∈ memory.providers := by
  simp [registered]

@[simp]
theorem sublayer_mem_registered {key above : Key} :
    Write.sublayer key above ∈ memory.registered ↔ (key, above) ∈ memory.sublayers := by
  simp [registered]

@[simp]
theorem filter_mem_registered {stored : Stored} :
    Write.filter stored ∈ memory.registered ↔ stored ∈ memory.filters := by
  simp [registered]

/-- Writes with new marks are added to the tables. -/
theorem registered_foldl_apply (owner : SessionId) {writes : List Write} {memory : Memory}
    (nodup : ((writes ++ memory.live).map Write.mark).Nodup) :
    (writes.foldl (Memory.apply owner) memory).registered.Perm (writes ++ memory.registered) := by
  have live : (writes.foldl (Memory.apply owner) memory).live.Perm (writes ++ memory.live) := by
    induction writes generalizing memory with
    | nil => exact List.Perm.refl _
    | cons write rest ih =>
      have middle := (fresh_of_nodup owner nodup).2
      exact (ih ((middle.map Write.mark).nodup_iff.mpr nodup)).trans middle
  rw [Memory.live, Memory.live, foldl_apply_sessions, ← List.append_assoc] at live
  exact (List.perm_append_right_iff _).mp live

theorem mem_registered_purge {id : SessionId} {write : Write} :
    write ∈ (memory.purge id).registered ↔
      write ∈ memory.registered ∧ (write.root, id) ∉ memory.providers := by
  cases write with
  | provider key =>
    simp only [provider_mem_registered, mem_providers_purge, exists_and_right]
    rfl
  | sublayer key above =>
    rw [sublayer_mem_registered, sublayer_mem_registered]
    exact mem_sublayers_purge
  | filter stored =>
    rw [filter_mem_registered, filter_mem_registered]
    exact mem_filters_purge

end Tables

/-! ## What calls do -/

section Calls

variable {memory next : Memory} {session : Session}

theorem Sound.setStaged_self (sound : memory.Sound)
    (found : memory.session? session.id = some session) :
    (memory.setStaged session.id session.staged).sessions = memory.sessions := by
  have member := (session?_eq_some found).1
  have same : ∀ other ∈ memory.sessions,
      (if other.id = session.id then { other with staged := session.staged } else other) =
        other := by
    intro other inside
    split
    next same =>
      have eq : other = session := List.inj_on_of_nodup_map sound.numbers_nodup inside member same
      rw [eq]
    next => rfl
  exact (List.map_congr_left same).trans (List.map_id _)

/-- Counters play no part in what a call does. -/
theorem Effect.congr {counted : Memory} {call : Call} {granted : Option Write}
    (effect : Effect counted session call granted next)
    (sessions : counted.sessions = memory.sessions)
    (registered : counted.registered = memory.registered)
    (providers : counted.providers = memory.providers)
    (failing : counted.failCommit = memory.failCommit) :
    Effect memory session call granted next := by
  have staged : ∀ staged, (counted.setStaged session.id staged).sessions =
      (memory.setStaged session.id staged).sessions := fun staged => by
    simp only [setStaged, sessions]
  cases effect with
  | keep after moved waiting moving landed kept there owned =>
    rw [staged] at kept
    rw [registered] at there
    rw [failing] at moving
    rw [providers] at owned
    exact .keep after moved waiting moving landed kept there owned
  | close kept there owned =>
    rw [sessions] at kept
    rw [registered, providers] at there
    rw [providers] at owned
    exact .close kept there owned

/-- Where sessions and tables stay, nothing moves and the same writes wait. -/
theorem Sound.effect_of_same (sound : memory.Sound)
    (found : memory.session? session.id = some session) {call : Call}
    (sessions : next.sessions = memory.sessions) (registered : next.registered = memory.registered)
    (providers : next.providers = memory.providers) : Effect memory session call none next :=
  .keep session.staged [] (Or.inr (Or.inl rfl)) (Or.inl rfl) (fun _ none => nomatch none)
    (sessions.trans (sound.setStaged_self found).symm) (List.Perm.of_eq registered)
    (by simp [providers])

/-- A transaction that begins or is forgotten moves nothing. -/
theorem effect_setStaged {call : Call} {staged : Option (List Write)}
    (nothing : staged.getD [] = []) :
    Effect memory session call none (memory.setStaged session.id staged) :=
  .keep staged [] (Or.inl nothing) (Or.inl rfl) (fun _ none => nomatch none) rfl
    (List.Perm.refl _) (by simp [setStaged])

/-- A write waits if a transaction is open, and reaches the tables if not. -/
theorem Sound.write_effect (sound : memory.Sound)
    (found : memory.session? session.id = some session) {call : Call} {write : Write}
    (fresh : write.mark ∉ memory.live.map Write.mark) :
    Effect memory session call (some write) (memory.write session write) := by
  cases staged : session.staged with
  | some waiting =>
    have writes : session.writes = waiting := by simp [Session.writes, staged]
    rw [Memory.write, staged]
    exact .keep (some (waiting ++ [write])) []
      (Or.inr (Or.inr ⟨write, rfl, by rw [writes]; rfl⟩)) (Or.inl rfl)
      (fun other is => Or.inr (by simp [Option.some.inj is])) rfl (List.Perm.refl _)
      (by simp [Memory.setStaged])
  | none =>
    have writes : session.writes = [] := by simp [Session.writes, staged]
    have nodup : (([write] ++ memory.live).map Write.mark).Nodup :=
      List.nodup_cons.mpr ⟨fresh, sound.marks_nodup⟩
    have kept := sound.setStaged_self found
    rw [Memory.write, staged]
    rw [staged] at kept
    exact .keep none [write] (Or.inl rfl)
      (Or.inr (Or.inr ⟨write, rfl, writes, rfl⟩))
      (fun other is => Or.inl (by simp [Option.some.inj is]))
      ((apply_sessions ..).trans kept.symm) (registered_foldl_apply _ nodup)
      (mem_foldl_apply nodup).1

/-- A commit moves the waiting writes into the tables. -/
theorem Sound.commit_effect (sound : memory.Sound)
    (found : memory.session? session.id = some session) (passing : memory.failCommit = false) :
    Effect memory session .commit none
      (session.writes.foldl (Memory.apply session.id) (memory.setStaged session.id none)) :=
  have nodup := sound.nodup_unstaged found
  .keep none session.writes (Or.inl rfl) (Or.inr (Or.inl ⟨rfl, passing, rfl⟩))
    (fun _ none => nomatch none) (foldl_apply_sessions ..) (registered_foldl_apply _ nodup)
    (mem_foldl_apply nodup).1

theorem effect_purge : Effect memory session .close none (memory.purge session.id) :=
  .close rfl (fun _ => mem_registered_purge) fun _ => mem_providers_purge

theorem Sound.addKey_effect (sound : memory.Sound)
    (found : memory.session? session.id = some session) (register : Key → Write)
    (fresh : (register (Key.draw memory.keysDrawn)).mark ∉ memory.live.map Write.mark)
    {call : Call} :
    Effect memory session call (some (register (Key.draw memory.keysDrawn)))
      (memory.addKey session register).2 := by
  have counted : ({ memory with keysDrawn := memory.keysDrawn + 1 } : Memory).Sound :=
    sound.grow rfl rfl rfl rfl (Nat.le_refl _) (Nat.le_succ _) (Nat.le_refl _)
  exact (counted.write_effect found fresh).congr rfl rfl rfl rfl

theorem Sound.addFilter_effect (sound : memory.Sound)
    (found : memory.session? session.id = some session) (ns : Namespace) (filter : Filter) :
    Effect memory session (.addFilter ns filter)
      ((Call.addFilter ns filter).granted (memory.addFilter session ns filter).1)
      (memory.addFilter session ns filter).2 := by
  unfold Memory.addFilter
  dsimp only
  split
  · exact sound.effect_of_same found rfl rfl rfl
  · split
    · exact sound.effect_of_same found rfl rfl rfl
    · have fresh := sound.fresh_number (Nat.lt_succ_self memory.lastFilter)
      let counted : Memory := { memory with
        addFilterCalls := memory.addFilterCalls + 1, lastFilter := memory.lastFilter + 1 }
      have sound' : counted.Sound :=
        sound.grow rfl rfl rfl rfl (Nat.le_refl _) (Nat.le_refl _) (Nat.le_succ _)
      have written : Effect counted session (.addFilter ns filter)
          (some (.filter ⟨memory.lastFilter + 1, ns, filter⟩))
          (counted.write session (.filter ⟨memory.lastFilter + 1, ns, filter⟩)) :=
        sound'.write_effect found fresh
      exact written.congr rfl rfl rfl rfl

theorem Sound.perform_effect (sound : memory.Sound)
    (found : memory.session? session.id = some session) (call : Call) :
    Effect memory session call (call.granted (memory.perform session call).1)
      (memory.perform session call).2 := by
  have fresh := sound.fresh_key memory.not_drawn_next
  cases call with
  | begin =>
    cases staged : session.staged with
    | none =>
      simp only [Memory.perform, staged]
      exact effect_setStaged rfl
    | some waiting =>
      simp only [Memory.perform, staged]
      exact sound.effect_of_same found rfl rfl rfl
  | commit =>
    cases staged : session.staged with
    | none =>
      simp only [Memory.perform, staged]
      exact sound.effect_of_same found rfl rfl rfl
    | some waiting =>
      have writes : session.writes = waiting := by simp [Session.writes, staged]
      simp only [Memory.perform, staged]
      split
      · exact effect_setStaged rfl
      next passing =>
        rw [Bool.not_eq_true] at passing
        exact writes ▸ sound.commit_effect found passing
  | abort =>
    cases staged : session.staged with
    | none =>
      simp only [Memory.perform, staged]
      exact sound.effect_of_same found rfl rfl rfl
    | some waiting =>
      simp only [Memory.perform, staged]
      exact effect_setStaged rfl
  | addProvider name description => exact sound.addKey_effect found .provider fresh.1
  | addSublayer provider name description =>
    simp only [Memory.perform]
    split
    · exact sound.addKey_effect found (.sublayer · provider) fresh.2
    · exact sound.effect_of_same found rfl rfl rfl
  | addFilter ns filter => exact sound.addFilter_effect found ns filter
  | close => exact effect_purge

/-- What a call on an open session does. -/
theorem Sound.call_effect (sound : memory.Sound) {id : SessionId}
    (found : memory.session? id = some session) (call : Call) :
    Effect memory session call (call.granted (Memory.call id call memory).1)
      (Memory.call id call memory).2 := by
  have counted : ({ memory with calls := memory.calls + 1 } : Memory).Sound :=
    sound.grow rfl rfl rfl rfl (Nat.le_refl _) (Nat.le_refl _) (Nat.le_refl _)
  obtain ⟨_, rfl⟩ := session?_eq_some found
  simp only [Memory.call, found]
  exact (counted.perform_effect found call).congr rfl rfl rfl rfl

/-- A call on a session that is not open does nothing. -/
theorem call_of_not_opened {id : SessionId} (closed : ¬ memory.Opened id) (call : Call) :
    call.granted (Memory.call id call memory).1 = none ∧
      (Memory.call id call memory).2 = memory := by
  rw [← session?_eq_none_iff_not_opened] at closed
  rw [Memory.call, closed]
  cases call <;> exact ⟨rfl, rfl⟩

theorem call_close {id : SessionId} (opened : memory.Opened id) :
    (Memory.call id .close memory).2 = { memory with calls := memory.calls + 1 }.purge id := by
  cases found : memory.session? id with
  | none => exact absurd opened (session?_eq_none_iff_not_opened.mp found)
  | some session =>
    obtain ⟨_, rfl⟩ := session?_eq_some found
    simp only [Memory.call, found, perform]

/-! ## What is granted -/

/-- What a call grants is new, and stands on something that is there. -/
theorem perform_granted {call : Call} {write : Write}
    (granted : call.granted (memory.perform session call).1 = some write) :
    memory.New write ∧ memory.Based session write := by
  have fresh := memory.not_drawn_next
  cases call with
  | addProvider name description =>
    cases granted
    exact ⟨fresh, fun _ under => by cases under⟩
  | addSublayer provider name description =>
    simp only [perform] at granted
    split at granted
    next known =>
      cases granted
      refine ⟨fresh, fun base under => ?_⟩
      cases under
      exact base_of_providerKnown known
    · cases granted
  | addFilter ns filter =>
    simp only [perform, Memory.addFilter] at granted
    split at granted
    · cases granted
    · split at granted
      · cases granted
      next refused =>
        cases granted
        refine ⟨Nat.lt_succ_self _, fun base under => ?_⟩
        cases under
        rw [Bool.not_eq_true', Bool.not_eq_false] at refused
        exact base_of_sublayerKnown refused
  | begin => cases granted
  | commit => cases granted
  | abort => cases granted
  | close => cases granted

/-- What a call grants is new, and stands on something that is there. -/
theorem call_granted {id : SessionId} (found : memory.session? id = some session) {call : Call}
    {write : Write} (granted : call.granted (Memory.call id call memory).1 = some write) :
    memory.New write ∧ memory.Based session write := by
  simp only [Memory.call, found] at granted
  have held := perform_granted granted
  exact held

/-! ## Counters -/

@[simp]
theorem foldl_apply_lastFilter (owner : SessionId) (writes : List Write) (memory : Memory) :
    (writes.foldl (Memory.apply owner) memory).lastFilter = memory.lastFilter := by
  induction writes generalizing memory with
  | nil => rfl
  | cons write rest ih => rw [List.foldl_cons, ih, apply_lastFilter]

theorem grows_of_eq (sessions : next.lastSession = memory.lastSession)
    (keys : next.keysDrawn = memory.keysDrawn) (ids : next.lastFilter = memory.lastFilter) :
    memory.Grows next :=
  ⟨Nat.le_of_eq sessions.symm, Nat.le_of_eq keys.symm, Nat.le_of_eq ids.symm⟩

theorem grows_write (memory : Memory) (session : Session) (write : Write) :
    memory.Grows (memory.write session write) := by
  unfold Memory.write
  split
  · exact grows_of_eq rfl rfl rfl
  · exact grows_of_eq (apply_lastSession ..) (apply_keysDrawn ..) (apply_lastFilter ..)

theorem grows_addFilter (memory : Memory) (session : Session) (ns : Namespace) (filter : Filter) :
    memory.Grows (memory.addFilter session ns filter).2 := by
  unfold Memory.addFilter
  dsimp only
  split
  · exact grows_of_eq rfl rfl rfl
  · split
    · exact grows_of_eq rfl rfl rfl
    · have written := grows_write
        { memory with
          addFilterCalls := memory.addFilterCalls + 1, lastFilter := memory.lastFilter + 1 }
        session (.filter ⟨memory.lastFilter + 1, ns, filter⟩)
      exact ⟨written.lastSession, written.keysDrawn, Nat.le_of_succ_le written.lastFilter⟩

theorem grows_addKey (memory : Memory) (session : Session) (register : Key → Write) :
    memory.Grows (memory.addKey session register).2 := by
  have written := grows_write { memory with keysDrawn := memory.keysDrawn + 1 } session
    (register (Key.draw memory.keysDrawn))
  exact ⟨written.lastSession, Nat.le_of_succ_le written.keysDrawn, written.lastFilter⟩

theorem grows_perform (memory : Memory) (session : Session) (call : Call) :
    memory.Grows (memory.perform session call).2 := by
  cases call with
  | begin =>
    rw [perform]
    split <;> exact grows_of_eq rfl rfl rfl
  | commit =>
    rw [perform]
    split
    · exact grows_of_eq rfl rfl rfl
    · dsimp only
      split
      · exact grows_of_eq rfl rfl rfl
      · exact grows_of_eq (foldl_apply_lastSession ..) (foldl_apply_keysDrawn ..)
          (foldl_apply_lastFilter ..)
  | abort =>
    rw [perform]
    split <;> exact grows_of_eq rfl rfl rfl
  | addProvider name description => exact grows_addKey ..
  | addSublayer provider name description =>
    rw [perform]
    split
    · exact grows_addKey ..
    · exact grows_of_eq rfl rfl rfl
  | addFilter ns filter => exact grows_addFilter ..
  | close => exact grows_of_eq rfl rfl rfl

theorem grows_call (memory : Memory) (id : SessionId) (call : Call) :
    memory.Grows (Memory.call id call memory).2 := by
  unfold Memory.call
  split
  · exact grows_of_eq rfl rfl rfl
  next session _ =>
    have made := grows_perform { memory with calls := memory.calls + 1 } session call
    exact ⟨made.lastSession, made.keysDrawn, made.lastFilter⟩

end Calls

end Memory

end TrafficPolicy
