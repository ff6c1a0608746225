import TrafficPolicy.Proofs.KillSwitch.Recorded
import TrafficPolicy.Proofs.Policy.Lookups

/-!
# Policies that are compiled and installed at once

`Builder.buildWith` says how a build ends.  A `BuildTurn` is a point on its way, between two of the
things that it does on the outside: the lookups for a directive, or one call on the engine.
`Build.advance` does the next of them and notes in a journal what there is to see in the engine
after it.

The turns lead to what `Builder.buildWith` gives, and their journal has all lookups first and then
the calls, which are those that an engine with a record writes down
(`Build.exists_iterate_eq_buildWith`).
-/

namespace TrafficPolicy

/-- A point on the way of a build. -/
inductive BuildTurn (ι : Type) where
  /-- Some directives are compiled, the others are to be. -/
  | compiling (done : List CompiledDirective) (rest : List (Directive × Assigned))
  | installing (policy : Policy) (stage : Stage ι)
  | finished (result : Except PolicyError (Installed ι))

/-- How far a build has come, with the journal of what it did so far. -/
structure BuildProgress (σ ι α : Type) where
  turn : BuildTurn ι
  state : σ
  journal : List (Moment α) := []

/-- A build, and how one looks into the engine. -/
structure Build (σ ι α : Type) where
  builder : Builder
  engine : Engine σ ι
  resolver : Resolver
  options : InstallOptions
  look : σ → α

variable {σ ι α : Type}

/-! ## Installations on engines that keep a record -/

/-- A record beside the engine changes nothing about an installation. -/
theorem Policy.install_recording (look : σ → α) (engine : Engine σ ι) (options : InstallOptions)
    (policy : Policy) (state : σ) (record : List α) :
    let installation := policy.install (engine.recording look) options (state, record)
    policy.install engine options state = (installation.1, installation.2.1) := by
  intro installation
  let bare : Stage ι × σ × List α → Stage ι × σ := fun run => (run.1, run.2.1)
  have step : Function.Semiconj bare (Stage.advance (engine.recording look) options policy)
      (Stage.advance engine options policy) := by
    rintro ⟨stage, state, record⟩
    rcases stage.unfinished_or with unfinished | ⟨result, rfl⟩
    · have stepped := Stage.step_recording look engine options policy unfinished state record
      simp only [bare, Stage.advance, stepped]
    · rfl
  obtain ⟨n, recorded⟩ := Stage.exists_iterate_eq_install (engine.recording look) options policy
    (state, record)
  obtain ⟨m, reached⟩ := Stage.exists_iterate_eq_install engine options policy state
  -- Both have ended after `m + n` steps.
  have same := step.iterate_right (m + n) (.opening, state, record)
  rw [Function.iterate_add_apply, recorded, Function.iterate_fixed rfl, Nat.add_comm,
    Function.iterate_add_apply] at same
  change _ = (Stage.advance engine options policy)^[n]
    ((Stage.advance engine options policy)^[m] (.opening, state)) at same
  rw [reached, Function.iterate_fixed rfl] at same
  obtain ⟨result, final⟩ := Prod.mk.inj same
  exact Prod.ext (Stage.finished.inj result).symm final.symm

namespace Build

variable (build : Build σ ι α)

/-! ## Turns -/

/-- The start of the build. -/
def start (state : σ) : BuildProgress σ ι α :=
  match build.builder.error with
  | some error => ⟨.finished (.error error), state, []⟩
  | none =>
    match Assigned.ofProgram build.builder.program with
    | .error error => ⟨.finished (.error error), state, []⟩
    | .ok weights => ⟨.compiling [] (build.builder.program.zip weights), state, []⟩

/-- Does the next thing, and notes it. -/
def advance (progress : BuildProgress σ ι α) : BuildProgress σ ι α :=
  let ⟨turn, state, journal⟩ := progress
  match turn with
  | .compiling done [] => ⟨.installing ⟨done⟩ .opening, state, journal⟩
  | .compiling done ((directive, weight) :: rest) =>
    let compiled := directive.compile build.resolver weight
    let journal := journal ++ compiled.lookups.map (.lookup · (build.look state))
    match compiled.result with
    | .error error => ⟨.finished (.error error), state, journal⟩
    | .ok first => ⟨.compiling (done ++ [first]) rest, state, journal⟩
  | .installing _ (.finished result) => ⟨.finished result, state, journal⟩
  | .installing policy stage =>
    let (stage, next) := stage.step build.engine build.options policy state
    ⟨.installing policy stage, next, journal ++ [.call (build.look next)]⟩
  | .finished result => ⟨.finished result, state, journal⟩

/-! ### Compiling -/

/-- The directives are compiled one after the other, up to the first that fails. -/
theorem exists_iterate_compileAll (rest : List (Directive × Assigned))
    (done : List CompiledDirective) (state : σ) (journal : List (Moment α)) :
    let compiled := Policy.compileAll build.resolver rest
    ∃ n, build.advance^[n] ⟨.compiling done rest, state, journal⟩ =
      ⟨match compiled.result with
        | .error error => .finished (.error error)
        | .ok more => .compiling (done ++ more) [], state,
        journal ++ compiled.lookups.map (.lookup · (build.look state))⟩ := by
  induction rest generalizing done journal with
  | nil =>
    refine ⟨0, ?_⟩
    change _ = BuildProgress.mk (.compiling (done ++ []) []) state (journal ++ [])
    rw [List.append_nil, List.append_nil]
    rfl
  | cons entry rest ih =>
    obtain ⟨directive, weight⟩ := entry
    dsimp only
    rw [Policy.lookups_compileAll_cons, Policy.result_compileAll_cons]
    cases compiled : (directive.compile build.resolver weight).result with
    | error error =>
      refine ⟨1, ?_⟩
      simp only [Function.iterate_one, advance, compiled, List.append_nil]
      rfl
    | ok first =>
      obtain ⟨n, reached⟩ := ih (done ++ [first]) (journal ++
        (directive.compile build.resolver weight).lookups.map (.lookup · (build.look state)))
      refine ⟨n + 1, ?_⟩
      rw [Function.iterate_succ_apply]
      simp only [advance, compiled]
      rw [reached, List.map_append, List.append_assoc]
      cases (Policy.compileAll build.resolver rest).result with
      | error error => rfl
      | ok others =>
        dsimp only
        rw [List.append_assoc done]
        rfl

/-- The policy is compiled before anything else happens. -/
theorem exists_iterate_compile (state : σ) :
    let compiled := build.builder.compile build.resolver
    ∃ n, build.advance^[n] (build.start state) =
      ⟨match compiled.result with
        | .error error => .finished (.error error)
        | .ok policy => .compiling policy.directives [], state,
        compiled.lookups.map (.lookup · (build.look state))⟩ := by
  intro compiled
  unfold compiled Builder.compile start
  cases build.builder.error with
  | some error => exact ⟨0, rfl⟩
  | none =>
    dsimp only
    rw [Policy.result_compile]
    cases weighed : Assigned.ofProgram build.builder.program with
    | error error =>
      rw [Policy.lookups_compile_of_error weighed]
      exact ⟨0, rfl⟩
    | ok weights =>
      obtain ⟨n, reached⟩ := build.exists_iterate_compileAll (build.builder.program.zip weights) []
        state []
      rw [Policy.lookups_compile _ weighed]
      refine ⟨n, reached.trans ?_⟩
      cases ended :
          (Policy.compileAll build.resolver (build.builder.program.zip weights)).result <;>
        simp only [bind, Except.bind, ended] <;> rfl

/-! ### Installing -/

/-- The calls of an installation, one after the other. -/
theorem exists_iterate_stage (policy : Policy) (state : σ) (journal : List (Moment α)) (n : Nat) :
    let reached := (Stage.advance (build.engine.recording build.look) build.options policy)^[n]
      (.opening, state, [])
    ∃ m, build.advance^[m] ⟨.installing policy .opening, state, journal⟩ =
      ⟨.installing policy reached.1, reached.2.1, journal ++ reached.2.2.map .call⟩ := by
  induction n with
  | zero => exact ⟨0, by simp⟩
  | succ n ih =>
    obtain ⟨m, before⟩ := ih
    rw [Function.iterate_succ_apply']
    generalize (Stage.advance (build.engine.recording build.look) build.options policy)^[n]
      (.opening, state, []) = reached at before ⊢
    obtain ⟨stage, next, seen⟩ := reached
    rcases stage.unfinished_or with unfinished | ⟨result, rfl⟩
    · have stepped := Stage.step_recording build.look build.engine build.options policy unfinished
        next seen
      refine ⟨m + 1, ?_⟩
      rw [Function.iterate_succ_apply', before]
      simp only [Stage.advance, stepped, List.map_append, ← List.append_assoc]
      cases stage with
      | finished result => exact absurd rfl (unfinished result)
      | _ => rfl
    · exact ⟨m, before⟩

/-- A policy is installed, call by call. -/
theorem exists_iterate_install (policy : Policy) (state : σ) (journal : List (Moment α)) :
    let recorded :=
      policy.install (build.engine.recording build.look) build.options (state, [])
    ∃ m, build.advance^[m] ⟨.compiling policy.directives [], state, journal⟩ =
      ⟨.finished recorded.1, recorded.2.1, journal ++ recorded.2.2.map .call⟩ := by
  intro recorded
  obtain ⟨n, reached⟩ := Stage.exists_iterate_eq_install (build.engine.recording build.look)
    build.options policy (state, [])
  obtain ⟨m, before⟩ := build.exists_iterate_stage policy state journal n
  rw [reached] at before
  refine ⟨m + 1 + 1, ?_⟩
  rw [Function.iterate_succ_apply]
  change build.advance^[m + 1] ⟨.installing policy .opening, state, journal⟩ = _
  rw [Function.iterate_succ_apply', before]
  rfl

/-- The turns of a build lead to its outcome.  All lookups come first, and then the calls that an
engine with a record writes down. -/
theorem exists_iterate_eq_buildWith (state : σ) :
    let built := build.builder.buildWith build.engine build.resolver build.options state
    ∃ n seen, build.advance^[n] (build.start state) =
        ⟨.finished built.1.result, built.2,
          built.1.lookups.map (.lookup · (build.look state)) ++ seen.map .call⟩ ∧
      build.builder.buildWith (build.engine.recording build.look) build.resolver build.options
        (state, []) = (built.1, built.2, seen) := by
  intro built
  obtain ⟨n, compiling⟩ := build.exists_iterate_compile state
  unfold built Builder.buildWith
  dsimp only at compiling ⊢
  cases compiled : (build.builder.compile build.resolver).result with
  | error error =>
    rw [compiled] at compiling
    refine ⟨n, [], ?_, rfl⟩
    rw [compiling, List.map_nil, List.append_nil]
  | ok policy =>
    rw [compiled] at compiling
    dsimp only at compiling
    obtain ⟨m, installing⟩ := build.exists_iterate_install policy state
      ((build.builder.compile build.resolver).lookups.map (.lookup · (build.look state)))
    have same := policy.install_recording build.look build.engine build.options state []
    dsimp only at same installing ⊢
    rw [same]
    refine ⟨m + n, _, ?_, rfl⟩
    rw [Function.iterate_add_apply, compiling, installing]

end Build

theorem Builder.lookups_buildWith (builder : Builder) (engine : Engine σ ι) (resolver : Resolver)
    (options : InstallOptions) (state : σ) :
    (builder.buildWith engine resolver options state).1.lookups =
      (builder.compile resolver).lookups := by
  unfold buildWith
  dsimp only
  split <;> rfl

/-- A policy is compiled with the lookups that it needs, in the order of its directives, and a
resolver that answers them alike is asked the same and gives the same.  A build makes them all
before its first call on the engine.  If the policy does not compile, there is no call. -/
theorem Builder.lookups_before_calls (builder : Builder) (resolver : Resolver) :
    let compiled := builder.compile resolver
    compiled.lookups = builder.needed resolver ∧
      (∀ other : Resolver, (∀ asked ∈ compiled.lookups, resolver.Agrees other asked) →
        builder.compile other = compiled) ∧
      ∀ (engine : Engine σ ι) (options : InstallOptions) (look : σ → α) (state : σ),
        let build : Build σ ι α := ⟨builder, engine, resolver, options, look⟩
        let built := builder.buildWith engine resolver options state
        (options = {} → builder.build engine resolver state = built) ∧ ∃ n seen,
          build.advance^[n] (build.start state) = ⟨.finished built.1.result, built.2,
            compiled.lookups.map (.lookup · (look state)) ++ seen.map .call⟩ ∧
          builder.buildWith (engine.recording look) resolver options (state, []) =
            (⟨compiled.lookups, built.1.result⟩, built.2, seen) ∧
          ∀ error, compiled.result = .error error →
            built.1.result = .error error ∧ built.2 = state ∧ seen = [] := by
  intro compiled
  refine ⟨builder.lookups_compile resolver, fun other => compile_of_agrees, ?_⟩
  intro engine options look state build built
  have lookups : built.1.lookups = compiled.lookups := builder.lookups_buildWith ..
  obtain ⟨n, seen, reached, recorded⟩ := build.exists_iterate_eq_buildWith state
  rw [← lookups]
  have plain : options = {} → builder.build engine resolver state = built := fun plain =>
    congrArg (builder.buildWith engine resolver · state) plain.symm
  refine ⟨plain, n, seen, reached, recorded, fun error failed => ?_⟩
  have failed : (builder.compile resolver).result = .error error := failed
  simp only [build, buildWith, failed] at recorded
  obtain ⟨_, _, rfl⟩ := recorded
  simp only [built, buildWith, failed]
  exact ⟨trivial, trivial, trivial⟩

end TrafficPolicy
