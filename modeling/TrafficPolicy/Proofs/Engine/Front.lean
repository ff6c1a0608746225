import TrafficPolicy.Engine.Memory
import TrafficPolicy.Engine.Watched

/-!
# Fronts of the engine in memory

The users of an engine in memory may have something between them and it that refuses some of
their calls, for reasons of its own.  `Memory.Front outer view` says that `outer` is such an engine
and `view` gives the engine in memory behind it: every call either is refused and does not
reach that engine, or is answered by it, while a session that is dropped is dropped there.  The
faults that the engine in memory was asked for may be set at any time (`Memory.Rearmed`).

The engine in memory is a front of itself, `Engine.refusing` is one that answers nothing, and
`Engine.watched` is one whose refusals are counted out.
-/

namespace TrafficPolicy

/-- The engine that refuses all calls with one error, and drops sessions as before. -/
def Engine.refusing {σ ι : Type} (engine : Engine σ ι) (error : EngineError) : Engine σ ι where
  openSession _ _ state := (.error error, state)
  call _ _ state := (.error error, state)
  drop := engine.drop

namespace Memory

/-- The same engine, up to the faults that it was asked for. -/
def Rearmed (memory next : Memory) : Prop :=
  ∃ k failing, next = { memory with failAddFilterAt := k, failCommit := failing }

theorem Rearmed.refl (memory : Memory) : memory.Rearmed memory :=
  ⟨memory.failAddFilterAt, memory.failCommit, rfl⟩

theorem Rearmed.failingAddFilter (memory : Memory) (k : Nat) :
    memory.Rearmed (memory.failingAddFilter k) :=
  ⟨some k, memory.failCommit, rfl⟩

theorem Rearmed.failingCommits (memory : Memory) : memory.Rearmed memory.failingCommits :=
  ⟨memory.failAddFilterAt, true, rfl⟩

/-- A call that was refused on its way, or answered by the engine. -/
def Relayed {α : Type} (memory : Memory) (inside : Memory → Except EngineError α × Memory)
    (answer : Except EngineError α) (next : Memory) : Prop :=
  ∃ armed, memory.Rearmed armed ∧
    ((∃ error, answer = .error error ∧ next = armed) ∨
      answer = (inside armed).1 ∧ next = (inside armed).2)

/-- An engine that passes the calls it does not refuse on to the engine in memory. -/
structure Front {σ : Type} (outer : Engine σ SessionId) (view : σ → Memory) : Prop where
  openSession : ∀ name description state,
    (view state).Relayed Memory.openSession (outer.openSession name description state).1
      (view (outer.openSession name description state).2)
  call : ∀ session call state,
    (view state).Relayed (Memory.call session call) (outer.call session call state).1
      (view (outer.call session call state).2)
  drop : ∀ session state, ∃ armed, (view state).Rearmed armed ∧
    view (outer.drop session state) = Memory.engine.drop session armed

/-- The engine in memory refuses nothing on the way. -/
theorem front_engine : Front Memory.engine id where
  openSession _ _ state := ⟨state, .refl _, Or.inr ⟨rfl, rfl⟩⟩
  call _ _ state := ⟨state, .refl _, Or.inr ⟨rfl, rfl⟩⟩
  drop _ state := ⟨state, .refl _, rfl⟩

theorem front_refusing (error : EngineError) : Front (Memory.engine.refusing error) id where
  openSession _ _ state := ⟨state, .refl _, Or.inl ⟨error, rfl, rfl⟩⟩
  call _ _ state := ⟨state, .refl _, Or.inl ⟨error, rfl, rfl⟩⟩
  drop _ state := ⟨state, .refl _, rfl⟩

/-- The engine in memory, or one in front of it that refuses all calls. -/
def engineUnder : Option EngineError → Engine Memory SessionId
  | none => engine
  | some error => engine.refusing error

theorem front_engineUnder (refusal : Option EngineError) : Front (engineUnder refusal) id := by
  cases refusal with
  | none => exact front_engine
  | some error => exact front_refusing error

theorem relayed_pass {α : Type} (watched : Watched Memory SessionId) (event : Event SessionId)
    (inside : Memory → Except EngineError α × Memory) :
    watched.inner.Relayed inside (watched.pass event inside).1
      (watched.pass event inside).2.inner := by
  refine ⟨watched.inner, .refl _, ?_⟩
  unfold Watched.pass
  split
  next error _ => exact Or.inl ⟨error, rfl, rfl⟩
  next => exact Or.inr ⟨rfl, rfl⟩

theorem front_watched : Front Memory.engine.watched Watched.inner where
  openSession name description state := relayed_pass state (.openSession name description) _
  call session call state := relayed_pass state (.call session call) _
  drop _ state := ⟨state.inner, .refl _, rfl⟩

end Memory

end TrafficPolicy
