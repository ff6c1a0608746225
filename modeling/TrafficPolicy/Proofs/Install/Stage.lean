import Mathlib.Logic.Function.Iterate
import TrafficPolicy.Install

/-!
# Stages of an installation

`Policy.install` says how an installation ends, and nothing of what stands between two of its
calls.  A `Stage` is such a point: what the calls so far have given, and with it the call that
comes next.  `Stage.step` makes that one call, so that the installations of many users can take
turns at an engine.

* `Stage.outcome` is how the installation ends if it goes on undisturbed.  A step does not change
  it (`Stage.outcome_step`).
* Hence the stages that follow each other without a break lead to what `Policy.install` gives
  (`Stage.exists_iterate_eq_install`).
-/

namespace TrafficPolicy

/-- A point between two calls of an installation. -/
inductive Stage (ι : Type) where
  | opening
  | beginning (session : ι)
  | naming (session : ι)
  | layering (session : ι) (provider : Key)
  /-- The filters up to the number of these identifiers are there. -/
  | filling (session : ι) (ns : Namespace) (ids : List FilterId)
  | aborting (session : ι) (error : PolicyError)
  | closing (session : ι) (error : PolicyError)
  | leaving (session : ι) (error : PolicyError)
  | finished (outcome : Except PolicyError (Installed ι))

namespace Stage

variable {σ ι : Type}

/-- Makes the next call of an installation. -/
def step (engine : Engine σ ι) (options : InstallOptions) (policy : Policy) :
    Stage ι → σ → Stage ι × σ
  | opening, state =>
    match engine.openSession options.sessionName options.sessionDescription state with
    | (.error error, state) => (finished (.error (.install openSessionName error)), state)
    | (.ok session, state) => (beginning session, state)
  | beginning session, state =>
    match engine.request session .begin state with
    | (.error error, state) => (closing session error, state)
    | (.ok _, state) => (naming session, state)
  | naming session, state =>
    match engine.request session
      (.addProvider options.providerName options.sessionDescription) state with
    | (.error error, state) => (aborting session error, state)
    | (.ok provider, state) => (layering session provider, state)
  | layering session provider, state =>
    match engine.request session
      (.addSublayer provider options.sublayerName options.sessionDescription) state with
    | (.error error, state) => (aborting session error, state)
    | (.ok sublayer, state) => (filling session ⟨provider, sublayer⟩ [], state)
  | filling session ns ids, state =>
    match policy.filters[ids.length]? with
    | some filter =>
      match engine.request session (.addFilter ns filter) state with
      | (.error error, state) => (aborting session error, state)
      | (.ok id, state) => (filling session ns (ids ++ [id]), state)
    | none =>
      match engine.request session .commit state with
      | (.error error, state) => (aborting session error, state)
      | (.ok _, state) => (finished (.ok ⟨some session, ns, ids⟩), state)
  | aborting session error, state => (closing session error, (engine.call session .abort state).2)
  | closing session error, state => (leaving session error, (engine.call session .close state).2)
  | leaving session error, state => (finished (.error error), engine.drop session state)
  | finished outcome, state => (finished outcome, state)

theorem unfinished_or (stage : Stage ι) :
    (∀ result, stage ≠ .finished result) ∨ ∃ result, stage = .finished result := by
  cases stage with
  | finished result => exact Or.inr ⟨result, rfl⟩
  | _ => exact Or.inl nofun

/-! ## Undisturbed installations -/

/-- The end of an installation once its transaction has succeeded or failed. -/
def settle (engine : Engine σ ι) (session : ι) :
    Except PolicyError (Namespace × List FilterId) × σ → Except PolicyError (Installed ι) × σ
  | (.ok (ns, ids), state) => (.ok ⟨some session, ns, ids⟩, state)
  | (.error error, state) =>
    (.error error, engine.release session (engine.call session .abort state).2)

/-- Adds the filters that are missing after `ids`, and commits. -/
def fill (engine : Engine σ ι) (policy : Policy) (session : ι) (ns : Namespace)
    (ids : List FilterId) : ExceptT PolicyError (StateM σ) (Namespace × List FilterId) := do
  let others ← engine.addFilters session ns (policy.filters.drop ids.length)
  engine.request session .commit
  return (ns, ids ++ others)

/-- How an installation ends from a stage on. -/
def outcome (engine : Engine σ ι) (options : InstallOptions) (policy : Policy) :
    Stage ι → σ → Except PolicyError (Installed ι) × σ
  | opening, state => policy.install engine options state
  | beginning session, state =>
    match engine.request session .begin state with
    | (.error error, state) => (.error error, engine.release session state)
    | (.ok _, state) => settle engine session (engine.populate session options policy.filters state)
  | naming session, state =>
    settle engine session (engine.populate session options policy.filters state)
  | layering session provider, state =>
    match engine.request session
      (.addSublayer provider options.sublayerName options.sessionDescription) state with
    | (.error error, state) => settle engine session (.error error, state)
    | (.ok sublayer, state) =>
      settle engine session (fill engine policy session ⟨provider, sublayer⟩ [] state)
  | filling session ns ids, state =>
    settle engine session (fill engine policy session ns ids state)
  | aborting session error, state => settle engine session (.error error, state)
  | closing session error, state => (.error error, engine.release session state)
  | leaving session error, state => (.error error, engine.drop session state)
  | finished outcome, state => (outcome, state)

section Undisturbed

variable (engine : Engine σ ι) (options : InstallOptions) (policy : Policy)

/-- A program that starts with a request goes on if the request is granted. -/
theorem bind_request {α : Type} (session : ι) (call : Call)
    (next : call.Reply → ExceptT PolicyError (StateM σ) α) (state : σ) :
    (engine.request session call >>= next : ExceptT PolicyError (StateM σ) α) state =
      match engine.request session call state with
      | (.error error, state) => (.error error, state)
      | (.ok reply, state) => next reply state := by
  change (do
    let (result, state) := engine.request session call state
    (ExceptT.bindCont next result : StateM σ _) state) = _
  rcases engine.request session call state with ⟨_ | reply, state⟩ <;> rfl

theorem fill_of_some {session : ι} {ns : Namespace} {ids : List FilterId} {filter : Filter}
    (found : policy.filters[ids.length]? = some filter) (state : σ) :
    fill engine policy session ns ids state =
      match engine.request session (.addFilter ns filter) state with
      | (.error error, state) => (.error error, state)
      | (.ok id, state) => fill engine policy session ns (ids ++ [id]) state := by
  obtain ⟨below, rfl⟩ := List.getElem?_eq_some_iff.mp found
  rw [fill, List.drop_eq_getElem_cons below, Engine.addFilters]
  simp only [bind_assoc, pure_bind]
  rw [bind_request]
  rcases engine.request session (.addFilter ns policy.filters[ids.length]) state with
    ⟨_ | id, state⟩
  · rfl
  · simp only [fill, List.length_append, List.length_singleton, List.append_assoc,
      List.singleton_append]

theorem fill_of_none {session : ι} {ns : Namespace} {ids : List FilterId}
    (full : policy.filters[ids.length]? = none) (state : σ) :
    fill engine policy session ns ids state =
      match engine.request session .commit state with
      | (.error error, state) => (.error error, state)
      | (.ok _, state) => (.ok (ns, ids), state) := by
  have rest := List.drop_eq_nil_of_le (List.getElem?_eq_none_iff.mp full)
  rw [fill, rest]
  change (engine.request session .commit >>= fun _ => pure (ns, ids ++ []) :
    ExceptT PolicyError (StateM σ) _) state = _
  rw [bind_request, List.append_nil]
  rcases engine.request session .commit state with ⟨_ | _, state⟩ <;> rfl

/-- A step does not change how an installation ends. -/
theorem outcome_step (stage : Stage ι) (state : σ) :
    outcome engine options policy (stage.step engine options policy state).1
      (stage.step engine options policy state).2 = outcome engine options policy stage state := by
  cases stage with
  | opening =>
    simp only [step, outcome, Policy.install]
    rcases engine.openSession options.sessionName options.sessionDescription state with
      ⟨_ | session, state⟩ <;> rfl
  | beginning session =>
    simp only [step, outcome]
    rcases engine.request session .begin state with ⟨_ | _, state⟩ <;> rfl
  | naming session =>
    simp only [step, outcome, Engine.populate]
    rw [bind_request]
    rcases engine.request session
      (.addProvider options.providerName options.sessionDescription) state with
      ⟨_ | provider, state⟩
    · rfl
    · dsimp only
      rw [bind_request]
      rcases engine.request session
        (.addSublayer provider options.sublayerName options.sessionDescription) state with
        ⟨_ | sublayer, state⟩ <;> rfl
  | layering session provider =>
    simp only [step, outcome]
    rcases engine.request session
      (.addSublayer provider options.sublayerName options.sessionDescription) state with
      ⟨_ | sublayer, state⟩ <;> rfl
  | filling session ns ids =>
    cases found : policy.filters[ids.length]? with
    | some filter =>
      simp only [step, found]
      rw [outcome, fill_of_some engine policy found]
      rcases engine.request session (.addFilter ns filter) state with ⟨_ | id, state⟩ <;> rfl
    | none =>
      simp only [step, outcome, found]
      rw [fill_of_none engine policy found]
      rcases engine.request session .commit state with ⟨_ | _, state⟩ <;> rfl
  | aborting session error => rfl
  | closing session error => rfl
  | leaving session error => rfl
  | finished outcome => rfl

/-- A bound on the calls that an installation still makes. -/
def togo : Stage ι → Nat
  | opening => policy.filters.length + 8
  | beginning _ => policy.filters.length + 7
  | naming _ => policy.filters.length + 6
  | layering _ _ => policy.filters.length + 5
  | filling _ _ ids => policy.filters.length - ids.length + 4
  | aborting _ _ => 3
  | closing _ _ => 2
  | leaving _ _ => 1
  | finished _ => 0

theorem togo_step (stage : Stage ι) (state : σ) :
    (stage.step engine options policy state).1.togo policy ≤ stage.togo policy - 1 := by
  cases stage with
  | opening =>
    simp only [step]
    rcases engine.openSession options.sessionName options.sessionDescription state with
      ⟨_ | session, state⟩ <;> simp [togo]
  | beginning session =>
    simp only [step]
    rcases engine.request session .begin state with ⟨_ | _, state⟩ <;> simp [togo]
  | naming session =>
    simp only [step]
    rcases engine.request session
      (.addProvider options.providerName options.sessionDescription) state with
      ⟨_ | provider, state⟩ <;> simp [togo]
  | layering session provider =>
    simp only [step]
    rcases engine.request session
      (.addSublayer provider options.sublayerName options.sessionDescription) state with
      ⟨_ | sublayer, state⟩ <;> simp [togo]
  | filling session ns ids =>
    cases found : policy.filters[ids.length]? with
    | some filter =>
      have below : ids.length < policy.filters.length := (List.getElem?_eq_some_iff.mp found).1
      simp only [step, found]
      rcases engine.request session (.addFilter ns filter) state with ⟨_ | id, state⟩
      · simp [togo]
      · simp [togo]
        omega
    | none =>
      simp only [step, found]
      rcases engine.request session .commit state with ⟨_ | _, state⟩ <;> simp [togo]
  | aborting session error => simp [step, togo]
  | closing session error => simp [step, togo]
  | leaving session error => simp [step, togo]
  | finished outcome => simp [step, togo]

/-- One call of an installation that nobody disturbs. -/
def advance (run : Stage ι × σ) : Stage ι × σ :=
  run.1.step engine options policy run.2

theorem exists_iterate_eq_outcome {k : Nat} {stage : Stage ι} (bound : stage.togo policy ≤ k)
    (state : σ) :
    ∃ n, (advance engine options policy)^[n] (stage, state) =
      (finished (outcome engine options policy stage state).1,
        (outcome engine options policy stage state).2) := by
  induction k generalizing stage state with
  | zero =>
    cases stage with
    | finished result => exact ⟨0, rfl⟩
    | _ => simp [togo] at bound
  | succ k ih =>
    have fewer := togo_step engine options policy stage state
    obtain ⟨n, reached⟩ := ih (Nat.le_trans fewer (Nat.sub_le_of_le_add bound))
      (stage.step engine options policy state).2
    rw [outcome_step] at reached
    exact ⟨n + 1, reached⟩

/-- The calls of an installation, one after the other, give what the installation gives. -/
theorem exists_iterate_eq_install (state : σ) :
    ∃ n, (advance engine options policy)^[n] (opening, state) =
      (finished (policy.install engine options state).1, (policy.install engine options state).2) :=
  exists_iterate_eq_outcome engine options policy (Nat.le_refl _) state

end Undisturbed

end Stage

end TrafficPolicy
