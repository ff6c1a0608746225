import Mathlib.Data.List.Induction
import TrafficPolicy.Proofs.Engine.Effects

/-!
# Histories of an engine

A `History` is an engine in memory together with all writes that were granted so far, each with
the session it was granted to.  Users may make any calls on any sessions, in any order and with
any keys, drop sessions, and ask for faults (`Move`); `History.run` is what comes of that.

The engine itself remembers the owners of providers only.  `History.Sound` says how far that goes:

* No two grants have one mark, and whatever stands in the tables or waits was granted.
* As long as the session is open that was granted the provider at the root of a write, the write
  stands on its base.
* What a session was granted under a provider of its own is gone from the tables when the session
  is closed.

`Sound.run` shows that all runs keep this.
-/

namespace TrafficPolicy

open Memory

/-- What can happen to an engine in memory. -/
inductive Move where
  | openSession
  | call (session : SessionId) (call : Call)
  | drop (session : SessionId)
  /-- Other faults are asked for. -/
  | rearm (failAddFilterAt : Option Nat) (failCommit : Bool)
  deriving DecidableEq, Repr

/-- An engine in memory, with what was granted so far and to which sessions. -/
structure History where
  memory : Memory := {}
  granted : List (SessionId × Write) := []

namespace History

/-- What a move makes of a history. -/
def after (history : History) : Move → History
  | .openSession => { history with memory := history.memory.openSession.2 }
  | .call id call =>
    let outcome := Memory.call id call history.memory
    ⟨outcome.2, history.granted ++ ((call.granted outcome.1).map (id, ·)).toList⟩
  | .drop id => { history with memory := Memory.engine.drop id history.memory }
  | .rearm failAddFilterAt failCommit =>
    { history with memory := { history.memory with failAddFilterAt, failCommit } }

/-- What moves make of an engine that has just been made. -/
def run (moves : List Move) : History :=
  moves.foldl after {}

theorem run_concat (moves : List Move) (move : Move) :
    run (moves ++ [move]) = (run moves).after move := by
  rw [run, List.foldl_concat, run]

/-- A session that is dropped is closed. -/
theorem after_drop (history : History) (id : SessionId) :
    history.after (.drop id) = history.after (.call id .close) := by
  simp [after, Memory.engine, Call.granted]

/-- The session that was granted the provider at the root of a write is still open. -/
def Rooted (history : History) (write : Write) : Prop :=
  ∀ owner, (owner, .provider write.root) ∈ history.granted → history.memory.Opened owner

/-- What holds of the engine and of the grants after any moves. -/
structure Sound (history : History) : Prop where
  memory : history.memory.Sound
  known : ∀ entry ∈ history.granted, history.memory.Knows entry.2
  number_le : ∀ entry ∈ history.granted, entry.1 ≤ history.memory.lastSession
  marks_nodup : (history.granted.map (·.2.mark)).Nodup
  provider_open : ∀ entry ∈ history.memory.providers, history.memory.Opened entry.2
  provider_granted : ∀ entry ∈ history.memory.providers,
    (entry.2, .provider entry.1) ∈ history.granted
  registered_granted : ∀ write ∈ history.memory.registered, ∃ id, (id, write) ∈ history.granted
  staged_granted : ∀ session ∈ history.memory.sessions, ∀ write ∈ session.writes,
    (session.id, write) ∈ history.granted
  root_granted : ∀ entry ∈ history.granted,
    ∃ owner, (owner, .provider entry.2.root) ∈ history.granted
  registered_based : ∀ write ∈ history.memory.registered, history.Rooted write →
    ∀ base, write.base? = some base → base ∈ history.memory.registered
  staged_based : ∀ session ∈ history.memory.sessions, ∀ write ∈ session.writes,
    history.Rooted write → history.memory.Based session write
  own_open : ∀ write ∈ history.memory.registered, ∀ id, (id, write) ∈ history.granted →
    (id, .provider write.root) ∈ history.granted → history.memory.Opened id

theorem sound_empty : ({} : History).Sound := by
  constructor <;> simp [registered, Memory.sound_empty]

section Facts

variable {history : History}

/-- A mark is granted once, to one session. -/
theorem eq_of_mark {granted : List (SessionId × Write)}
    (nodup : (granted.map (·.2.mark)).Nodup) {first second : SessionId × Write}
    (here : first ∈ granted) (there : second ∈ granted) (same : first.2.mark = second.2.mark) :
    first = second :=
  List.inj_on_of_nodup_map nodup here there same

/-- Below a write whose root is held there is a provider. -/
theorem Sound.provider_of_rooted (sound : history.Sound) {write : Write}
    (member : write ∈ history.memory.registered) (rooted : history.Rooted write) :
    ∃ owner, (write.root, owner) ∈ history.memory.providers := by
  cases write with
  | provider key => exact provider_mem_registered.mp member
  | sublayer key above =>
    exact provider_mem_registered.mp (sound.registered_based _ member rooted _ rfl)
  | filter stored =>
    have sublayer := sound.registered_based _ member rooted _ rfl
    exact provider_mem_registered.mp (sound.registered_based _ sublayer rooted _ rfl)

/-- The owner of the provider below a write is the session that was granted it. -/
theorem Sound.provider_of_owner (sound : history.Sound) {write : Write} {id : SessionId}
    (member : write ∈ history.memory.registered) (opened : history.memory.Opened id)
    (owns : (id, .provider write.root) ∈ history.granted) :
    (write.root, id) ∈ history.memory.providers := by
  have only : ∀ owner, (owner, .provider write.root) ∈ history.granted → owner = id :=
    fun owner other => congrArg Prod.fst (eq_of_mark sound.marks_nodup other owns rfl)
  have rooted : history.Rooted write := fun owner other => only owner other ▸ opened
  obtain ⟨owner, present⟩ := sound.provider_of_rooted member rooted
  exact only owner (sound.provider_granted _ present) ▸ present

end Facts

/-! ## What moves keep -/

section Moves

variable {history : History}

theorem Sound.openSession (sound : history.Sound) : (history.after .openSession).Sound := by
  have sessions : ∀ session ∈ history.memory.openSession.2.sessions,
      session ∈ history.memory.sessions ∨ session.writes = [] := by
    intro session member
    rcases List.mem_append.mp member with old | new
    · exact Or.inl old
    · rw [List.mem_singleton.mp new]
      exact Or.inr rfl
  have opened : ∀ {id}, history.memory.Opened id → history.memory.openSession.2.Opened id := by
    rintro id ⟨session, member, same⟩
    exact ⟨session, List.mem_append_left _ member, same⟩
  have rooted : ∀ {write}, (history.after .openSession).Rooted write → history.Rooted write := by
    intro write rooted owner owns
    obtain ⟨session, member, same⟩ := rooted owner owns
    rcases List.mem_append.mp member with old | new
    · exact ⟨session, old, same⟩
    · rw [List.mem_singleton.mp new] at same
      have below : owner ≤ history.memory.lastSession := sound.number_le _ owns
      exact absurd (same ▸ below) (Nat.not_succ_le_self _)
  exact {
    memory := sound.memory.openSession
    known := fun entry member =>
      (sound.known entry member).mono (Nat.le_refl _) (Nat.le_refl _)
    number_le := fun entry member => Nat.le_succ_of_le (sound.number_le entry member)
    marks_nodup := sound.marks_nodup
    provider_open := fun entry member => opened (sound.provider_open entry member)
    provider_granted := sound.provider_granted
    registered_granted := sound.registered_granted
    staged_granted := fun session member write waiting => by
      rcases sessions session member with old | none
      · exact sound.staged_granted session old write waiting
      · rw [none] at waiting
        cases waiting
    root_granted := sound.root_granted
    registered_based := fun write member held => sound.registered_based write member (rooted held)
    staged_based := fun session member write waiting held => by
      rcases sessions session member with old | none
      · exact sound.staged_based session old write waiting (rooted held)
      · rw [none] at waiting
        cases waiting
    own_open := fun write member id own root => opened (sound.own_open write member id own root) }

theorem Sound.rearm (sound : history.Sound) (k : Option Nat) (failing : Bool) :
    (history.after (.rearm k failing)).Sound :=
  { sound with
    memory := sound.memory.grow rfl rfl rfl rfl (Nat.le_refl _) (Nat.le_refl _) (Nat.le_refl _) }

/-- A grant is added to the others: it has a new mark, and a base that was granted before. -/
theorem Sound.grant (sound : history.Sound) {session : Session}
    (found : history.memory.session? session.id = some session) {granted : Option Write}
    (new : ∀ write, granted = some write →
      history.memory.New write ∧ history.memory.Based session write) :
    let all := history.granted ++ (granted.map (session.id, ·)).toList
    (∀ entry, entry ∈ all ↔
      entry ∈ history.granted ∨ ∃ write, granted = some write ∧ entry = (session.id, write)) ∧
    (all.map (·.2.mark)).Nodup ∧
    ∀ entry ∈ all, ∃ owner, (owner, .provider entry.2.root) ∈ all := by
  intro all
  have mem_all : ∀ entry, entry ∈ all ↔
      entry ∈ history.granted ∨ ∃ write, granted = some write ∧ entry = (session.id, write) := by
    intro entry
    simp only [all, List.mem_append, Option.mem_toList, Option.map_eq_some_iff, @eq_comm _ entry]
  refine ⟨mem_all, ?_, fun entry member => ?_⟩
  · rw [List.map_append]
    refine List.nodup_append.mpr ⟨sound.marks_nodup, ?_, fun old before last after => ?_⟩
    · cases granted <;> simp
    · obtain ⟨entry, member, rfl⟩ := List.mem_map.mp before
      obtain ⟨added, place, rfl⟩ := List.mem_map.mp after
      rw [Option.mem_toList, Option.map_eq_some_iff] at place
      obtain ⟨write, is, rfl⟩ := place
      exact (new write is).1.mark_ne (sound.known entry member)
  · rcases (mem_all entry).mp member with old | ⟨write, is, rfl⟩
    · obtain ⟨owner, owns⟩ := sound.root_granted entry old
      exact ⟨owner, (mem_all _).mpr (Or.inl owns)⟩
    · cases under : write.base? with
      | none =>
        cases write with
        | provider key => exact ⟨session.id, member⟩
        | sublayer key above => cases under
        | filter stored => cases under
      | some base =>
        -- the base was granted, so its root was, which is the root of the new write
        have before : ∃ id, (id, base) ∈ history.granted := by
          rcases (new write is).2 base under with stands | waits
          · exact sound.registered_granted base stands
          · exact ⟨_, sound.staged_granted session (session?_eq_some found).1 base waits⟩
        obtain ⟨id, owns⟩ := before
        obtain ⟨owner, root⟩ := sound.root_granted _ owns
        exact ⟨owner, (mem_all _).mpr (Or.inl (Write.root_of_base? under ▸ root))⟩

/-- What is carried stands on the tables or on something that is carried with it. -/
theorem Sound.based_of_carried (sound : history.Sound) {session : Session}
    (member : session ∈ history.memory.sessions) {granted : Option Write}
    (new : ∀ write, granted = some write → history.memory.Based session write)
    {list : List Write} (carried : Carried session granted list) {write : Write}
    (inside : write ∈ list) (rooted : history.Rooted write) {base : Write}
    (under : write.base? = some base) :
    base ∈ history.memory.registered ∨ base ∈ list := by
  have based : history.memory.Based session write := (carried.mem inside).elim
    (fun waited => sound.staged_based session member write waited rooted) (new write)
  exact (based base under).imp_right (carried.mem_of_writes inside)

/-- Writes that reach the tables or wait keep a history sound. -/
theorem Sound.keep (sound : history.Sound) {session : Session}
    (found : history.memory.session? session.id = some session) {granted : Option Write}
    (new : ∀ write, granted = some write →
      history.memory.New write ∧ history.memory.Based session write)
    {next : Memory} (next_sound : next.Sound) (grows : history.memory.Grows next)
    {staged : Option (List Write)} {moved : List Write}
    (waiting : Carried session granted (staged.getD [])) (moving : Carried session granted moved)
    (landed : ∀ write, granted = some write → write ∈ moved ∨ write ∈ staged.getD [])
    (sessions : next.sessions = (history.memory.setStaged session.id staged).sessions)
    (registered : next.registered.Perm (moved ++ history.memory.registered))
    (providers : ∀ entry, entry ∈ next.providers ↔
      entry ∈ history.memory.providers ∨
        Write.provider entry.1 ∈ moved ∧ entry.2 = session.id) :
    History.Sound ⟨next, history.granted ++ (granted.map (session.id, ·)).toList⟩ := by
  obtain ⟨mem_all, nodup, roots⟩ := sound.grant found new
  obtain ⟨present, _⟩ := session?_eq_some found
  have stands : ∀ {write}, write ∈ next.registered ↔
      write ∈ moved ∨ write ∈ history.memory.registered := by
    intro write
    rw [registered.mem_iff, List.mem_append]
  have opened : ∀ {id}, next.Opened id ↔ history.memory.Opened id := opened_of_setStaged sessions
  have here : history.memory.Opened session.id := ⟨session, present, rfl⟩
  have changed : ⟨session.id, staged⟩ ∈ next.sessions := by
    rw [sessions]
    exact List.mem_map.mpr ⟨session, present, if_pos rfl⟩
  have held : ∀ {list}, Carried session granted list → ∀ write ∈ list, (session.id, write) ∈
      history.granted ++ (granted.map (session.id, ·)).toList := fun carried write inside =>
    carried.mem_granted (sound.staged_granted session present) inside
  have base_new : ∀ write, granted = some write → history.memory.Based session write :=
    fun write is => (new write is).2
  have rooted : ∀ {write}, History.Rooted
      ⟨next, history.granted ++ (granted.map (session.id, ·)).toList⟩ write →
      history.Rooted write := fun held owner owns =>
    opened.mp (held owner ((mem_all _).mpr (Or.inl owns)))
  have unique : ∀ {first second : SessionId} {write other : Write},
      (first, write) ∈ history.granted ++ (granted.map (session.id, ·)).toList →
      (second, other) ∈ history.granted ++ (granted.map (session.id, ·)).toList →
      write.mark = other.mark → first = second := fun one two same =>
    congrArg Prod.fst (eq_of_mark nodup one two same)
  exact {
    memory := next_sound
    known := fun entry member => by
      rcases (mem_all entry).mp member with old | ⟨write, is, rfl⟩
      · exact (sound.known entry old).mono grows.keysDrawn grows.lastFilter
      · refine next_sound.known write (List.mem_append.mpr ?_)
        exact (landed write is).imp (stands.mpr ∘ Or.inl) fun waits =>
          List.mem_flatMap.mpr ⟨_, changed, waits⟩
    number_le := fun entry member => by
      rcases (mem_all entry).mp member with old | ⟨write, is, rfl⟩
      · exact Nat.le_trans (sound.number_le entry old) grows.lastSession
      · exact Nat.le_trans (sound.memory.number_le session present) grows.lastSession
    marks_nodup := nodup
    provider_open := fun entry member => by
      refine opened.mpr ?_
      rcases (providers entry).mp member with old | ⟨_, own⟩
      · exact sound.provider_open entry old
      · exact own ▸ here
    provider_granted := fun entry member => by
      rcases (providers entry).mp member with old | ⟨moves, own⟩
      · exact (mem_all _).mpr (Or.inl (sound.provider_granted entry old))
      · exact own ▸ held moving _ moves
    registered_granted := fun write member => by
      rcases stands.mp member with moves | old
      · exact ⟨_, held moving _ moves⟩
      · obtain ⟨id, owns⟩ := sound.registered_granted write old
        exact ⟨id, (mem_all _).mpr (Or.inl owns)⟩
    staged_granted := fun other member write waits => by
      rw [sessions] at member
      rcases mem_setStaged member with rfl | ⟨old, _⟩
      · exact held waiting _ waits
      · exact (mem_all _).mpr (Or.inl (sound.staged_granted other old write waits))
    root_granted := roots
    registered_based := fun write member holds base under => by
      refine stands.mpr ?_
      rcases stands.mp member with moves | old
      · exact (sound.based_of_carried present base_new moving moves (rooted holds) under).symm
      · exact Or.inr (sound.registered_based write old (rooted holds) base under)
    staged_based := fun other member write waits holds base under => by
      rw [sessions] at member
      rcases mem_setStaged member with rfl | ⟨old, _⟩
      · exact (sound.based_of_carried present base_new waiting waits (rooted holds) under).imp_left
          (stands.mpr ∘ Or.inr)
      · exact (sound.staged_based other old write waits (rooted holds) base under).imp_left
          (stands.mpr ∘ Or.inr)
    own_open := fun write member id own root => by
      refine opened.mpr ?_
      rcases stands.mp member with moves | old
      · exact unique own (held moving _ moves) rfl ▸ here
      · obtain ⟨first, owns⟩ := sound.registered_granted write old
        obtain ⟨owner, below⟩ := sound.root_granted _ owns
        have same := unique own ((mem_all _).mpr (Or.inl owns)) rfl
        have root_same := unique root ((mem_all _).mpr (Or.inl below)) rfl
        exact sound.own_open write old id (same ▸ owns) (root_same ▸ below) }

/-- When a session ends, what hangs under its providers goes from a sound history. -/
theorem Sound.close (sound : history.Sound) {id : SessionId} {next : Memory}
    (next_sound : next.Sound) (grows : history.memory.Grows next)
    (sessions : next.sessions = history.memory.sessions.filter (·.id ≠ id))
    (registered : ∀ write, write ∈ next.registered ↔
      write ∈ history.memory.registered ∧ (write.root, id) ∉ history.memory.providers)
    (providers : ∀ entry, entry ∈ next.providers ↔
      entry ∈ history.memory.providers ∧ (entry.1, id) ∉ history.memory.providers) :
    History.Sound ⟨next, history.granted⟩ := by
  have opened : ∀ {other}, next.Opened other ↔ history.memory.Opened other ∧ other ≠ id :=
    opened_of_filter sessions
  have rooted : ∀ {write}, History.Rooted ⟨next, history.granted⟩ write → history.Rooted write :=
    fun holds owner owns => (opened.mp (holds owner owns)).1
  -- the base of a write stays if the root of both stays
  have stays : ∀ {write base : Write}, History.Rooted ⟨next, history.granted⟩ write →
      write.base? = some base → base ∈ history.memory.registered → base ∈ next.registered := by
    intro write base holds under before
    refine (registered base).mpr ⟨before, fun own => ?_⟩
    rw [Write.root_of_base? under] at own
    exact (opened.mp (holds id (sound.provider_granted _ own))).2 rfl
  have kept : ∀ session ∈ next.sessions, session ∈ history.memory.sessions := fun session member =>
    (List.mem_filter.mp (sessions ▸ member)).1
  exact {
    memory := next_sound
    known := fun entry member => (sound.known entry member).mono grows.keysDrawn grows.lastFilter
    number_le := fun entry member => Nat.le_trans (sound.number_le entry member) grows.lastSession
    marks_nodup := sound.marks_nodup
    provider_open := fun entry member => by
      obtain ⟨before, apart⟩ := (providers entry).mp member
      exact opened.mpr ⟨sound.provider_open entry before, fun same => apart (same ▸ before)⟩
    provider_granted := fun entry member =>
      sound.provider_granted entry ((providers entry).mp member).1
    registered_granted := fun write member =>
      sound.registered_granted write ((registered write).mp member).1
    staged_granted := fun session member => sound.staged_granted session (kept session member)
    root_granted := sound.root_granted
    registered_based := fun write member holds base under =>
      stays holds under (sound.registered_based write ((registered write).mp member).1
        (rooted holds) base under)
    staged_based := fun session member write waits holds base under =>
      have before := sound.staged_based session (kept session member) write waits (rooted holds)
      (before base under).imp_left (stays holds under)
    own_open := fun write member other own root => by
      obtain ⟨before, apart⟩ := (registered write).mp member
      have here := sound.own_open write before other own root
      refine opened.mpr ⟨here, fun same => apart ?_⟩
      exact same ▸ sound.provider_of_owner before here root }

theorem Sound.call (sound : history.Sound) (id : SessionId) (call : Call) :
    (history.after (.call id call)).Sound := by
  cases found : history.memory.session? id with
  | none =>
    obtain ⟨none, same⟩ :=
      call_of_not_opened (session?_eq_none_iff_not_opened.mp found) call
    simpa only [after, none, same, Option.map_none, Option.toList_none, List.append_nil] using sound
  | some session =>
    obtain ⟨_, rfl⟩ := session?_eq_some found
    have next_sound := sound.memory.call session.id call
    have grows := grows_call history.memory session.id call
    have new : ∀ write, call.granted (Memory.call session.id call history.memory).1 = some write →
        history.memory.New write ∧ history.memory.Based session write :=
      fun write granted => call_granted found granted
    rw [after]
    have effect := sound.memory.call_effect found call
    generalize call.granted (Memory.call session.id call history.memory).1 = granted at new effect ⊢
    generalize (Memory.call session.id call history.memory).2 = next at next_sound grows effect ⊢
    cases effect with
    | keep staged moved waiting moving landed sessions registered providers =>
      exact sound.keep found new next_sound grows waiting (.of_moving moving) landed sessions
        registered providers
    | close sessions registered providers =>
      simpa using sound.close next_sound grows sessions registered providers

theorem Sound.after (sound : history.Sound) (move : Move) : (history.after move).Sound := by
  cases move with
  | openSession => exact sound.openSession
  | call id call => exact sound.call id call
  | drop id => exact history.after_drop id ▸ sound.call id .close
  | rearm k failing => exact sound.rearm k failing

end Moves

/-- Whatever moves were made, the engine and the grants are in order. -/
theorem sound_run (moves : List Move) : (run moves).Sound := by
  induction moves using List.reverseRecOn with
  | nil => exact sound_empty
  | append_singleton earlier move ih => exact run_concat earlier move ▸ ih.after move

/-! ## Counters -/

theorem grows_after (history : History) (move : Move) :
    history.memory.Grows (history.after move).memory := by
  cases move with
  | openSession => exact ⟨Nat.le_succ _, Nat.le_refl _, Nat.le_refl _⟩
  | call id call => exact grows_call history.memory id call
  | drop id => exact history.after_drop id ▸ grows_call history.memory id .close
  | rearm k failing => exact grows_of_eq rfl rfl rfl

/-- Counters do not go back while more moves are made. -/
theorem grows_of_isPrefix {earlier later : List Move} (before : earlier <+: later) :
    (run earlier).memory.Grows (run later).memory := by
  obtain ⟨rest, rfl⟩ := before
  induction rest using List.reverseRecOn with
  | nil =>
    rw [List.append_nil]
    exact grows_of_eq rfl rfl rfl
  | append_singleton rest move ih =>
    rw [← List.append_assoc, run_concat]
    have last := grows_after (run (earlier ++ rest)) move
    exact ⟨Nat.le_trans ih.lastSession last.lastSession,
      Nat.le_trans ih.keysDrawn last.keysDrawn, Nat.le_trans ih.lastFilter last.lastFilter⟩

end History

end TrafficPolicy
