import TrafficPolicy.Proofs.KillSwitch.Turns

/-!
# Commits before policies

Among the turns of an application there is one in which a policy is in force and the kill switch is
yet to be told.  The turn before it is the commit of that policy, and the policy is the one of the
settings (`Application.committed_of_installed`).
-/

namespace TrafficPolicy

variable {σ ι ρ α : Type}

/-- An installation succeeds with the commit, which the engine accepts once all filters are
there. -/
theorem Stage.committed_of_step {engine : Engine σ ι} {options : InstallOptions} {policy : Policy}
    {stage : Stage ι} (unfinished : ∀ result, stage ≠ .finished result) {state : σ}
    {installed : Installed ι}
    (ended : (stage.step engine options policy state).1 = .finished (.ok installed)) :
    ∃ session ns ids, stage = .filling session ns ids ∧ policy.filters[ids.length]? = none ∧
      (engine.call session .commit state).1 = .ok () := by
  cases stage with
  | opening | beginning | naming | layering =>
    rw [step] at ended
    split at ended <;> cases ended
  | filling session ns ids =>
    rw [step] at ended
    refine ⟨session, ns, ids, rfl, ?_⟩
    cases missing : policy.filters[ids.length]? with
    | some filter =>
      rw [missing] at ended
      dsimp only at ended
      split at ended <;> cases ended
    | none =>
      rw [missing] at ended
      rcases answered : engine.call session .commit state with ⟨error | done, next⟩ <;>
        simp only [Engine.request, answered] at ended <;> cases ended
      exact ⟨rfl, rfl⟩
  | aborting | closing | leaving => cases ended
  | finished result => exact absurd rfl (unfinished result)

namespace Application

/-- A turn in which the policy is committed: all its filters are there, and the engine accepts. -/
def Commits (application : Application σ ι ρ α) (policy : Policy)
    (progress : Progress σ ι ρ α) : Prop :=
  ∃ session ns ids, progress.turn = .installing policy (.filling session ns ids) ∧
    policy.filters[ids.length]? = none ∧
    (application.engine.call session .commit progress.world.engine).1 = .ok ()

/-- The settings compile to a policy. -/
def CompilesTo (application : Application σ ι ρ α) (policy : Policy) : Prop :=
  (application.settings.builder.compile application.resolver).result = .ok policy

/-- What is to be installed, in the end, is the policy of the settings. -/
def Intends (application : Application σ ι ρ α) : Turn ι → Prop
  | .compiling done rest =>
    ∀ more, (Policy.compileAll application.resolver rest).result = .ok more →
      application.CompilesTo ⟨done ++ more⟩
  | .closing _ next | .leaving _ _ next => ∀ policy ∈ next, application.CompilesTo policy
  | .installing policy _ => application.CompilesTo policy
  | .finished _ => True

section Committed

variable {application : Application σ ι ρ α} {next : Option Policy} {policy : Policy}

theorem intends_freed
    (wanted : ∀ policy ∈ next, application.CompilesTo policy)
    (answer : Except PolicyError Unit) (world : World σ ι ρ) (journal : List (Moment α)) :
    application.Intends (application.freed next answer world journal).turn := by
  cases next with
  | none => exact trivial
  | some policy =>
    cases answer with
    | ok _ => exact wanted policy rfl
    | error error => exact trivial

theorem intends_release
    (wanted : ∀ policy ∈ next, application.CompilesTo policy)
    (world : World σ ι ρ) (journal : List (Moment α)) :
    application.Intends (application.release next world journal).turn := by
  unfold release
  dsimp only
  split
  · exact wanted
  · exact intends_freed wanted ..

theorem intends_start (application : Application σ ι ρ α) (world : World σ ι ρ) :
    application.Intends (application.start world).turn := by
  unfold start
  split
  · exact trivial
  split
  · exact intends_release (fun _ is => by cases is) ..
  cases sound : application.settings.builder.error with
  | some error => exact trivial
  | none =>
    dsimp only
    cases weighed : Assigned.ofProgram application.settings.builder.program with
    | error error => exact trivial
    | ok weights =>
      intro more compiled
      simp only [CompilesTo, Builder.compile, sound]
      exact Policy.compile_eq_ok.mpr ⟨weights, weighed, compiled⟩

theorem intends_advance {progress : Progress σ ι ρ α}
    (intends : application.Intends progress.turn) :
    application.Intends (application.advance progress).turn := by
  obtain ⟨turn, world, journal⟩ := progress
  cases turn with
  | compiling done rest =>
    cases rest with
    | nil =>
      refine intends_release (fun policy is => ?_) ..
      cases is
      have compiled := intends [] rfl
      rwa [List.append_nil] at compiled
    | cons entry rest =>
      obtain ⟨directive, weight⟩ := entry
      simp only [advance]
      cases compiled : (directive.compile application.resolver weight).result with
      | error error => exact trivial
      | ok first =>
        intro more others
        have all := intends (first :: more)
        rw [Policy.result_compileAll_cons, compiled, List.append_cons] at all
        exact all (bind_eq_ok.mpr ⟨first, rfl, bind_eq_ok.mpr ⟨more, others, rfl⟩⟩)
  | closing session next => exact intends
  | leaving session answer next => exact intends_freed intends ..
  | installing policy stage =>
    rcases stage.unfinished_or with unfinished | ⟨result, rfl⟩
    · rw [advance_installing policy unfinished]
      exact intends
    · cases result <;> exact trivial
  | finished result => exact trivial

theorem intends_iterate (application : Application σ ι ρ α) (world : World σ ι ρ) (n : Nat) :
    application.Intends (application.advance^[n] (application.start world)).turn := by
  induction n with
  | zero => exact intends_start application world
  | succ n ih =>
    rw [Function.iterate_succ_apply']
    exact intends_advance ih

/-- No installation has begun after the old policy is gone, except for its first call. -/
theorem opening_of_freed {answer : Except PolicyError Unit} {world : World σ ι ρ}
    {journal : List (Moment α)} {stage : Stage ι}
    (turned : (application.freed next answer world journal).turn = .installing policy stage) :
    stage = .opening := by
  cases next with
  | none => cases turned
  | some policy =>
    cases answer <;> cases turned
    rfl

theorem opening_of_release {world : World σ ι ρ} {journal : List (Moment α)} {stage : Stage ι}
    (turned : (application.release next world journal).turn = .installing policy stage) :
    stage = .opening := by
  unfold release at turned
  dsimp only at turned
  split at turned
  · cases turned
  · exact opening_of_freed turned

theorem opening_of_start {world : World σ ι ρ} {stage : Stage ι}
    (turned : (application.start world).turn = .installing policy stage) : stage = .opening := by
  unfold start at turned
  split at turned
  · cases turned
  split at turned
  · exact opening_of_release turned
  split at turned
  · cases turned
  · split at turned <;> cases turned

/-- The turn before a policy is in force is its commit. -/
theorem commits_of_advance {progress : Progress σ ι ρ α} {installed : Installed ι}
    (turned :
      (application.advance progress).turn = .installing policy (.finished (.ok installed))) :
    application.Commits policy progress := by
  obtain ⟨turn, world, journal⟩ := progress
  cases turn with
  | compiling done rest =>
    cases rest with
    | nil => cases opening_of_release turned
    | cons entry rest =>
      obtain ⟨directive, weight⟩ := entry
      simp only [advance] at turned
      split at turned <;> cases turned
  | closing session next => cases turned
  | leaving session answer next => cases opening_of_freed turned
  | installing other stage =>
    rcases stage.unfinished_or with unfinished | ⟨result, rfl⟩
    · rw [advance_installing other unfinished] at turned
      obtain ⟨rfl, ended⟩ := Turn.installing.inj turned
      obtain ⟨session, ns, ids, rfl, missing, accepted⟩ := Stage.committed_of_step unfinished ended
      exact ⟨session, ns, ids, rfl, missing, accepted⟩
    · cases result <;> cases turned
  | finished result => cases turned

/-- By the time a policy is in force it has been committed, in the turn before, and it is the policy
of the settings. -/
theorem committed_of_installed {world : World σ ι ρ} {n : Nat} {installed : Installed ι}
    (turned : (application.advance^[n] (application.start world)).turn =
      .installing policy (.finished (.ok installed))) :
    ∃ earlier, n = earlier + 1 ∧ application.CompilesTo policy ∧
      application.Commits policy (application.advance^[earlier] (application.start world)) := by
  have intends := intends_iterate application world n
  rw [turned] at intends
  cases n with
  | zero => cases opening_of_start turned
  | succ earlier =>
    rw [Function.iterate_succ_apply'] at turned
    exact ⟨earlier, rfl, intends, commits_of_advance turned⟩

end Committed

end Application

end TrafficPolicy
