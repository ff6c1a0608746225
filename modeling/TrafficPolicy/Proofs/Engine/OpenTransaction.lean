import TrafficPolicy.Proofs.Engine.Renaming
import TrafficPolicy.Proofs.Engine.Tenancy

/-!
# An open transaction

What waits in the transaction of a session is of no concern to anyone else.  A move that is not of
the session does the same, whatever waits there (`Memory.step_setStaged`), and leaves it there.  The
session itself only adds to what waits, until the transaction ends.
-/

namespace TrafficPolicy

/-- Whether a move is of a session: a call of it, or its end. -/
def Move.isOf (id : SessionId) : Move → Bool
  | call other _ | drop other => other = id
  | openSession | rearm .. => false

namespace Memory

/-! ## Moves beside an open transaction -/

section Frame

variable {memory : Memory} {id : SessionId} {staged : Option (List Write)}

theorem setStaged_setStaged (memory : Memory) (id : SessionId)
    (first second : Option (List Write)) :
    (memory.setStaged id first).setStaged id second = memory.setStaged id second := by
  simp only [setStaged, List.map_map]
  congr 1
  refine List.map_congr_left fun session _ => ?_
  by_cases same : session.id = id <;> simp [same]

theorem setStaged_comm (memory : Memory) {id other : SessionId} (apart : other ≠ id)
    (first second : Option (List Write)) :
    (memory.setStaged id first).setStaged other second =
      (memory.setStaged other second).setStaged id first := by
  simp only [setStaged, List.map_map]
  congr 1
  refine List.map_congr_left fun session _ => ?_
  by_cases same : session.id = id <;> by_cases same' : session.id = other <;>
    simp_all

theorem apply_setStaged (owner : SessionId) (write : Write) :
    (memory.setStaged id staged).apply owner write =
      (memory.apply owner write).setStaged id staged := by
  cases write <;> rfl

theorem foldl_apply_setStaged (owner : SessionId) (writes : List Write) :
    writes.foldl (Memory.apply owner) (memory.setStaged id staged) =
      (writes.foldl (Memory.apply owner) memory).setStaged id staged := by
  induction writes generalizing memory with
  | nil => rfl
  | cons write rest ih => rw [List.foldl_cons, apply_setStaged, ih, List.foldl_cons]

theorem write_setStaged {session : Session} (apart : session.id ≠ id) (write : Write) :
    (memory.setStaged id staged).write session write =
      (memory.write session write).setStaged id staged := by
  rw [Memory.write, Memory.write]
  split
  · exact setStaged_comm memory apart _ _
  · exact apply_setStaged ..

theorem purge_setStaged (other : SessionId) :
    (memory.setStaged id staged).purge other = (memory.purge other).setStaged id staged := by
  simp only [purge, setStaged]
  congr 1
  rw [List.filter_map]
  congr 1
  refine List.filter_congr fun session _ => ?_
  by_cases same : session.id = id <;> simp [same]

theorem addKey_setStaged {session : Session} (apart : session.id ≠ id) (register : Key → Write) :
    (memory.setStaged id staged).addKey session register =
      ((memory.addKey session register).1,
        (memory.addKey session register).2.setStaged id staged) :=
  congrArg (Prod.mk _) (@write_setStaged { memory with keysDrawn := memory.keysDrawn + 1 } id
    staged session apart (register (Key.draw memory.keysDrawn)))

theorem addFilter_setStaged {session : Session} (apart : session.id ≠ id) (ns : Namespace)
    (filter : Filter) :
    (memory.setStaged id staged).addFilter session ns filter =
      ((memory.addFilter session ns filter).1,
        (memory.addFilter session ns filter).2.setStaged id staged) := by
  let counted : Memory := { memory with addFilterCalls := memory.addFilterCalls + 1 }
  rw [Memory.addFilter, Memory.addFilter]
  change (if counted.failAddFilterAt = some counted.addFilterCalls then _
    else if (!counted.sublayerKnown session ns) = true then _ else _) = _
  split
  · rfl
  · split
    · rfl
    · exact congrArg (Prod.mk _) (@write_setStaged
        { counted with lastFilter := counted.lastFilter + 1 } id staged session apart _)

/-- A call of another session takes no notice of a transaction. -/
theorem perform_setStaged {session : Session} (apart : session.id ≠ id) (call : Call) :
    (memory.setStaged id staged).perform session call =
      ((memory.perform session call).1, (memory.perform session call).2.setStaged id staged) := by
  cases call with
  | begin =>
    simp only [perform]
    split
    · rfl
    · rw [setStaged_comm memory apart]
  | commit =>
    simp only [perform]
    split
    · rfl
    next waiting =>
      rw [setStaged_comm memory apart, foldl_apply_setStaged]
      change (if (memory.setStaged session.id none).failCommit = true then _ else _) = _
      split <;> rfl
  | abort =>
    simp only [perform]
    split
    · rfl
    · rw [setStaged_comm memory apart]
  | addProvider name description => exact addKey_setStaged apart _
  | addSublayer provider name description =>
    simp only [perform]
    change (if memory.providerKnown session provider = true then _ else _) = _
    split
    · exact addKey_setStaged apart _
    · rfl
  | addFilter ns filter => exact addFilter_setStaged apart ns filter
  | close =>
    simp only [perform, purge_setStaged]

/-- A move that is not of a session takes no notice of its transaction. -/
theorem step_setStaged {move : Move} (apart : move.isOf id = false) :
    (memory.setStaged id none).step move =
      ((memory.step move).1, (memory.step move).2.setStaged id none) := by
  have calls : ∀ other call, other ≠ id → Memory.call other call (memory.setStaged id none) =
      ((Memory.call other call memory).1, (Memory.call other call memory).2.setStaged id none) := by
    intro other call differs
    have found := session?_setStaged memory id other none
    rw [if_neg differs] at found
    rw [Memory.call, Memory.call, found]
    cases opened : memory.session? other with
    | none => rfl
    | some session =>
      obtain ⟨_, rfl⟩ := session?_eq_some opened
      exact @perform_setStaged { memory with calls := memory.calls + 1 } id none session differs
        call
  cases move with
  | openSession =>
    have new : (if memory.lastSession + 1 = id then (⟨memory.lastSession + 1, none⟩ : Session)
        else ⟨memory.lastSession + 1, none⟩) = ⟨memory.lastSession + 1, none⟩ := ite_self _
    simp only [step, openSession, setStaged, List.map_append, List.map_singleton, new]
  | call other call =>
    have differs := of_decide_eq_false apart
    simp only [step, Call.outcome, calls other call differs]
  | drop other =>
    have differs := of_decide_eq_false apart
    simp only [step, Memory.engine, calls other .close differs]
  | rearm k failing => rfl

/-- A move that is not of a session leaves it open as it is. -/
theorem Sound.session?_step (sound : memory.Sound) {session : Session}
    (opened : memory.session? id = some session) {move : Move} (apart : move.isOf id = false) :
    (memory.step move).2.session? id = some session := by
  have calls : ∀ other call, id ≠ other →
      (Memory.call other call memory).2.session? id = some session := by
    intro other call differs
    cases found : memory.session? other with
    | none =>
      rw [(call_of_not_opened (session?_eq_none_iff_not_opened.mp found) call).2, opened]
    | some session' =>
      obtain ⟨_, rfl⟩ := session?_eq_some found
      have effect := sound.call_effect found call
      generalize call.granted (Memory.call session'.id call memory).1 = granted at effect
      generalize (Memory.call session'.id call memory).2 = next at effect ⊢
      cases effect with
      | keep staged moved waiting moving landed sessions =>
        have kept := session?_setStaged memory session'.id id staged
        rw [if_neg differs, opened] at kept
        rw [session?, sessions]
        exact kept
      | close sessions =>
        rw [session?, sessions]
        exact (session?_purge memory differs).trans opened
  cases move with
  | openSession => exact (List.find?_append ..).trans (by rw [← session?, opened, Option.some_or])
  | call other call => exact calls other call (Ne.symm (of_decide_eq_false apart))
  | drop other => exact calls other .close (Ne.symm (of_decide_eq_false apart))
  | rearm k failing => exact opened

end Frame

/-! ## Moves of the open transaction itself -/

/-- The tables and the sessions are the same.  The counts may differ, and one more key and one more
number may have been given out. -/
def Ticks (memory counted : Memory) : Prop :=
  ∃ calls additions, ∃ keys ≤ 1, ∃ numbers ≤ 1, counted = { memory with
    calls := calls
    addFilterCalls := additions
    keysDrawn := memory.keysDrawn + keys
    lastFilter := memory.lastFilter + numbers }

theorem Ticks.keysDrawn {memory counted : Memory} (ticks : Ticks memory counted) :
    counted.keysDrawn = memory.keysDrawn ∨ counted.keysDrawn = memory.keysDrawn + 1 := by
  obtain ⟨_, _, keys, few, _, _, rfl⟩ := ticks
  rcases Nat.le_one_iff_eq_zero_or_eq_one.mp few with rfl | rfl
  · exact Or.inl rfl
  · exact Or.inr rfl

theorem Ticks.lastFilter {memory counted : Memory} (ticks : Ticks memory counted) :
    counted.lastFilter = memory.lastFilter ∨ counted.lastFilter = memory.lastFilter + 1 := by
  obtain ⟨_, _, _, _, numbers, few, rfl⟩ := ticks
  rcases Nat.le_one_iff_eq_zero_or_eq_one.mp few with rfl | rfl
  · exact Or.inl rfl
  · exact Or.inr rfl

section Own

variable {memory : Memory} {id : SessionId} {waiting : List Write}

theorem Sound.setStaged_eq_self (sound : memory.Sound) {session : Session}
    (found : memory.session? session.id = some session) :
    memory.setStaged session.id session.staged = memory :=
  congrArg (fun sessions => { memory with sessions }) (sound.setStaged_self found)

/-- Until its transaction ends, a session only adds to what waits in it. -/
theorem Sound.call_waiting (sound : memory.Sound)
    (found : memory.session? id = some ⟨id, some waiting⟩) {call : Call}
    (stays : call ≠ .commit ∧ call ≠ .abort ∧ call ≠ .close) :
    ∃ counted writes, Ticks memory counted ∧
      (Memory.call id call memory).2 = counted.setStaged id (some writes) := by
  have none_given : ∀ calls additions,
      Ticks memory { memory with calls := calls, addFilterCalls := additions } :=
    fun calls additions => ⟨calls, additions, 0, Nat.zero_le _, 0, Nat.zero_le _, rfl⟩
  have same : ∀ calls additions,
      ({ memory with calls := calls, addFilterCalls := additions } : Memory) =
        ({ memory with calls := calls, addFilterCalls := additions } : Memory).setStaged id
          (some waiting) := fun calls additions => by
    have counted : ({ memory with calls := calls, addFilterCalls := additions } : Memory).Sound :=
      sound.grow rfl rfl rfl rfl (Nat.le_refl _) (Nat.le_refl _) (Nat.le_refl _)
    exact (@Sound.setStaged_eq_self _ counted ⟨id, some waiting⟩ found).symm
  rw [Memory.call, found]
  cases call with
  | begin => exact ⟨_, _, none_given _ _, same _ _⟩
  | commit => exact absurd rfl stays.1
  | abort => exact absurd rfl stays.2.1
  | close => exact absurd rfl stays.2.2
  | addProvider name description =>
    exact ⟨_, _, ⟨_, _, 1, Nat.le_refl _, 0, Nat.zero_le _, rfl⟩, rfl⟩
  | addSublayer provider name description =>
    simp only [Memory.perform]
    split
    · exact ⟨_, _, ⟨_, _, 1, Nat.le_refl _, 0, Nat.zero_le _, rfl⟩, rfl⟩
    · exact ⟨_, _, none_given _ _, same _ _⟩
  | addFilter ns filter =>
    simp only [Memory.perform, Memory.addFilter]
    split
    · exact ⟨_, _, none_given _ _, same _ _⟩
    · split
      · exact ⟨_, _, none_given _ _, same _ _⟩
      · exact ⟨_, _, ⟨_, _, 0, Nat.zero_le _, 1, Nat.le_refl _, rfl⟩, rfl⟩

/-- A transaction begins in a session that has none. -/
theorem call_begin (begun : (Memory.call id .begin memory).1 = .ok ()) :
    memory.session? id = some ⟨id, none⟩ ∧ ∃ counted, Ticks memory counted ∧
      (Memory.call id .begin memory).2 = counted.setStaged id (some []) := by
  cases found : memory.session? id with
  | none =>
    rw [Memory.call, found] at begun
    cases begun
  | some session =>
    obtain ⟨_, rfl⟩ := session?_eq_some found
    obtain ⟨id, staged⟩ := session
    rw [Memory.call, found] at begun ⊢
    cases staged with
    | some waiting => cases begun
    | none => exact ⟨rfl, _, ⟨_, _, 0, Nat.zero_le _, 0, Nat.zero_le _, rfl⟩, rfl⟩

/-- A transaction is aborted, or its commit is made to fail. -/
theorem call_ending (found : memory.session? id = some ⟨id, some waiting⟩) {call : Call}
    (ends : call = .abort ∨
      call = .commit ∧ (Memory.call id .commit memory).1 = .error .injectedCommit) :
    ∃ counted, Ticks memory counted ∧
      (Memory.call id call memory).2 = counted.setStaged id none := by
  have counted : Ticks memory { memory with calls := memory.calls + 1 } :=
    ⟨_, _, 0, Nat.zero_le _, 0, Nat.zero_le _, rfl⟩
  rcases ends with rfl | ⟨rfl, failed⟩
  · rw [Memory.call, found]
    exact ⟨_, counted, rfl⟩
  · rw [Memory.call, found] at failed ⊢
    simp only [perform] at failed ⊢
    split at failed
    next failing =>
      rw [if_pos failing]
      exact ⟨_, counted, rfl⟩
    next => cases failed

end Own

/-- Counts play no part in what is like another engine. -/
theorem Like.ticks {r : Renaming} {memory counted other : Memory} {id : SessionId}
    (like : Like r (memory.setStaged id none) other) (ticks : Ticks memory counted) :
    Like r (counted.setStaged id none) other := by
  obtain ⟨calls, additions, keys, _, numbers, _, rfl⟩ := ticks
  exact like.recount

end Memory

end TrafficPolicy
