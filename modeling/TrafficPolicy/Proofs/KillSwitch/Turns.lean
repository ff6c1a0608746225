import TrafficPolicy.Proofs.Install.Stage
import TrafficPolicy.Proofs.KillSwitch.Applied
import TrafficPolicy.Proofs.Policy.Compile

/-!
# Turns of an application

`World.apply` says how an application of settings ends.  A `Turn` is a point on its way, between
two of the things that it does on the outside: the lookups for a directive, or one call on the
engine.  `Application.advance` does the next of them and notes in a journal what there is to see
in the engine after it.

No turn knows what `World.apply` gives, but the turns that follow each other from the start of an
application lead there, with any engine and any resolver (`exists_iterate_eq_apply`).  So the
journal tells all that an application does, in its order.
-/

namespace TrafficPolicy

/-- Something that an application does on the outside, with what there is to see after it. -/
inductive Moment (α : Type) where
  | lookup (lookup : Lookup) (seen : α)
  | call (seen : α)
  deriving DecidableEq, Repr

/-- The lookup that a moment is. -/
def Moment.lookup? {α : Type} : Moment α → Option Lookup
  | lookup asked _ => some asked
  | call _ => none

/-- A point on the way of an application. -/
inductive Turn (ι : Type) where
  /-- Some directives are compiled, the others are to be. -/
  | compiling (done : List CompiledDirective) (rest : List (Directive × Assigned))
  /-- The session of the old policy is to be closed, and the new policy installed if there is
  one. -/
  | closing (session : ι) (next : Option Policy)
  | leaving (session : ι) (answer : Except PolicyError Unit) (next : Option Policy)
  | installing (policy : Policy) (stage : Stage ι)
  | finished (result : Except PolicyError Unit)

/-- How far an application has come, with the journal of what it did so far. -/
structure Progress (σ ι ρ α : Type) where
  turn : Turn ι
  world : World σ ι ρ
  journal : List (Moment α) := []

/-- The lookups made so far. -/
def Progress.lookups {σ ι ρ α : Type} (progress : Progress σ ι ρ α) : List Lookup :=
  progress.journal.filterMap Moment.lookup?

/-- An application of settings, and how one looks into the engine. -/
structure Application (σ ι ρ α : Type) where
  engine : Engine σ ι
  manager : RouteManager ρ
  resolver : Resolver
  settings : Settings
  vpnAddress : Option Address
  look : σ → α

namespace Application

variable {σ ι ρ α : Type} (application : Application σ ι ρ α)

/-- What the application comes to. -/
def outcome (world : World σ ι ρ) : Looked Unit × World σ ι ρ :=
  world.apply application.engine application.manager application.resolver application.settings
    application.vpnAddress

/-- Goes on once the old policy is out of force. -/
def freed (next : Option Policy) (answer : Except PolicyError Unit) (world : World σ ι ρ)
    (journal : List (Moment α)) : Progress σ ι ρ α :=
  match next, answer with
  | none, answer => ⟨.finished answer, world, journal⟩
  | some policy, .ok _ => ⟨.installing policy .opening, world, journal⟩
  | some _, .error error =>
    ⟨.finished (.error error), world.moveRoutes application.manager none, journal⟩

/-- Turns to the old policy, if there is one. -/
def release (next : Option Policy) (world : World σ ι ρ) (journal : List (Moment α)) :
    Progress σ ι ρ α :=
  let emptied :=
    { world with killSwitch := { world.killSwitch with active := none, settings := none } }
  match world.killSwitch.active.bind (·.session) with
  | some session => ⟨.closing session next, emptied, journal⟩
  | none => application.freed next (.ok ()) emptied journal

/-- The start of the application. -/
def start (world : World σ ι ρ) : Progress σ ι ρ α :=
  if world.killSwitch.isEnabled &&
      world.killSwitch.remembers application.settings application.vpnAddress then
    ⟨.finished (.ok ()), world, []⟩
  else if !application.settings.enableKillSwitch then
    application.release none (world.moveRoutes application.manager none) []
  else
    match application.settings.builder.error with
    | some error => ⟨.finished (.error error), world, []⟩
    | none =>
      match Assigned.ofProgram application.settings.builder.program with
      | .error error => ⟨.finished (.error error), world, []⟩
      | .ok weights => ⟨.compiling [] (application.settings.builder.program.zip weights), world, []⟩

/-- Does the next thing, and notes it. -/
def advance (progress : Progress σ ι ρ α) : Progress σ ι ρ α :=
  let ⟨turn, world, journal⟩ := progress
  match turn with
  | .compiling done [] => application.release (some ⟨done⟩) world journal
  | .compiling done ((directive, weight) :: rest) =>
    let compiled := directive.compile application.resolver weight
    let journal :=
      journal ++ compiled.lookups.map (.lookup · (application.look world.engine))
    match compiled.result with
    | .error error => ⟨.finished (.error error), world, journal⟩
    | .ok first => ⟨.compiling (done ++ [first]) rest, world, journal⟩
  | .closing session next =>
    let (answer, state) := application.engine.call session .close world.engine
    ⟨.leaving session (answer.mapError (.install "close_session")) next,
      { world with engine := state }, journal ++ [.call (application.look state)]⟩
  | .leaving session answer next =>
    let state := application.engine.drop session world.engine
    application.freed next answer { world with engine := state }
      (journal ++ [.call (application.look state)])
  | .installing _ (.finished (.ok installed)) =>
    let killSwitch := { world.killSwitch with
      active := some installed, settings := some application.settings }
    ⟨.finished (.ok ()),
      { world with killSwitch }.moveRoutes application.manager application.vpnAddress, journal⟩
  | .installing _ (.finished (.error error)) =>
    ⟨.finished (.error error), world.moveRoutes application.manager none, journal⟩
  | .installing policy stage =>
    let (stage, state) :=
      stage.step application.engine world.killSwitch.options policy world.engine
    ⟨.installing policy stage, { world with engine := state },
      journal ++ [.call (application.look state)]⟩
  | .finished result => ⟨.finished result, world, journal⟩

/-! ## Where the turns lead -/

/-- Some turns lead from one point to another, and make these lookups on the way. -/
def Leads (lookups : List Lookup) (first last : Progress σ ι ρ α) : Prop :=
  (∃ n, application.advance^[n] first = last) ∧ last.lookups = first.lookups ++ lookups

variable {application} {first middle last : Progress σ ι ρ α} {world : World σ ι ρ}

theorem Leads.refl (progress : Progress σ ι ρ α) : application.Leads [] progress progress :=
  ⟨⟨0, rfl⟩, (List.append_nil _).symm⟩

theorem Leads.trans {lookups more : List Lookup} (one : application.Leads lookups first middle)
    (two : application.Leads more middle last) :
    application.Leads (lookups ++ more) first last := by
  obtain ⟨⟨m, rfl⟩, before⟩ := one
  obtain ⟨⟨n, rfl⟩, after⟩ := two
  refine ⟨⟨n + m, Function.iterate_add_apply ..⟩, ?_⟩
  rw [after, before, List.append_assoc]

theorem Leads.of_eq {lookups : List Lookup} (moved : application.advance first = last)
    (noted : last.lookups = first.lookups ++ lookups) : application.Leads lookups first last :=
  ⟨⟨1, moved⟩, noted⟩

/-- The lookups that a journal notes. -/
theorem lookups_noted (turn : Turn ι) (journal : List (Moment α)) (lookups : List Lookup)
    (seen : α) :
    (⟨turn, world, journal ++ lookups.map fun asked => .lookup asked seen⟩ :
        Progress σ ι ρ α).lookups =
      journal.filterMap Moment.lookup? ++ lookups := by
  have each : lookups.filterMap (Moment.lookup? ∘ fun asked => Moment.lookup asked seen) =
      lookups.filterMap some := rfl
  rw [Progress.lookups, List.filterMap_append, List.filterMap_map, each, List.filterMap_some]

/-- Calls are no lookups. -/
theorem lookups_called (turn : Turn ι) (journal : List (Moment α)) (seen : α) :
    (⟨turn, world, journal ++ [.call seen]⟩ : Progress σ ι ρ α).lookups =
      journal.filterMap Moment.lookup? ++ [] := by
  rw [Progress.lookups, List.filterMap_append]
  rfl

@[simp]
theorem lookups_freed (next : Option Policy) (answer : Except PolicyError Unit)
    (world : World σ ι ρ) (journal : List (Moment α)) :
    (application.freed next answer world journal).lookups =
      journal.filterMap Moment.lookup? := by
  cases next <;> cases answer <;> rfl

@[simp]
theorem lookups_release (next : Option Policy) (world : World σ ι ρ) (journal : List (Moment α)) :
    (application.release next world journal).lookups = journal.filterMap Moment.lookup? := by
  unfold release
  dsimp only
  split
  · rfl
  · rw [lookups_freed]

theorem lookups_start (application : Application σ ι ρ α) (world : World σ ι ρ) :
    (application.start world).lookups = [] := by
  unfold start
  split
  · rfl
  · split
    · exact lookups_release ..
    · split
      · rfl
      · split <;> rfl

/-! ### Compiling -/

/-- The directives are compiled one after the other, up to the first that fails. -/
theorem leads_compileAll (rest : List (Directive × Assigned)) (done : List CompiledDirective)
    (journal : List (Moment α)) :
    ∃ later, application.Leads (Policy.compileAll application.resolver rest).lookups
      ⟨.compiling done rest, world, journal⟩
      ⟨match (Policy.compileAll application.resolver rest).result with
        | .error error => .finished (.error error)
        | .ok more => .compiling (done ++ more) [], world, later⟩ := by
  induction rest generalizing done journal with
  | nil =>
    refine ⟨journal, ?_⟩
    change application.Leads [] ⟨.compiling done [], world, journal⟩
      ⟨.compiling (done ++ []) [], world, journal⟩
    rw [List.append_nil]
    exact .refl _
  | cons entry rest ih =>
    obtain ⟨directive, weight⟩ := entry
    let noted := journal ++ (directive.compile application.resolver weight).lookups.map
      fun asked => Moment.lookup asked (application.look world.engine)
    rw [Policy.lookups_compileAll_cons, Policy.result_compileAll_cons]
    cases compiled : (directive.compile application.resolver weight).result with
    | error error =>
      have moved : application.advance
          ⟨.compiling done ((directive, weight) :: rest), world, journal⟩ =
            ⟨.finished (.error error), world, noted⟩ := by
        simp only [advance, compiled, noted]
      refine ⟨noted, .of_eq moved ?_⟩
      rw [List.append_nil]
      exact lookups_noted ..
    | ok first =>
      have moved : application.advance
          ⟨.compiling done ((directive, weight) :: rest), world, journal⟩ =
            ⟨.compiling (done ++ [first]) rest, world, noted⟩ := by
        simp only [advance, compiled, noted]
      obtain ⟨later, others⟩ := ih (done ++ [first]) noted
      refine ⟨later, Leads.trans (.of_eq moved (lookups_noted ..)) ?_⟩
      cases ended : (Policy.compileAll application.resolver rest).result with
      | error error =>
        rw [ended] at others
        exact others
      | ok more =>
        rw [ended] at others
        dsimp only at others
        rw [List.append_assoc] at others
        exact others

/-- New settings are compiled before anything else happens. -/
theorem leads_compile (fresh : ¬ world.Current application.settings application.vpnAddress)
    (wanted : application.settings.enableKillSwitch = true) :
    let compiled := application.settings.builder.compile application.resolver
    ∃ later, application.Leads compiled.lookups (application.start world)
      ⟨match compiled.result with
        | .error error => .finished (.error error)
        | .ok policy => .compiling policy.directives [], world, later⟩ := by
  intro compiled
  rw [World.Current] at fresh
  unfold compiled Builder.compile start
  rw [if_neg fresh, wanted]
  simp only [Bool.not_true, Bool.false_eq_true, if_false]
  cases pending : application.settings.builder.error with
  | some error => exact ⟨[], .refl _⟩
  | none =>
    dsimp only
    let program := application.settings.builder.program
    change ∃ later, application.Leads (Policy.compile application.resolver program).lookups _
      ⟨match (Policy.compile application.resolver program).result with
        | .error error => .finished (.error error)
        | .ok policy => .compiling policy.directives [], world, later⟩
    rw [Policy.result_compile]
    cases weighed : Assigned.ofProgram program with
    | error error =>
      have nothing : (Policy.compile application.resolver program).lookups = [] :=
        Looked.lookups_bind_of_error weighed _
      exact ⟨[], nothing ▸ .refl _⟩
    | ok weights =>
      rw [Policy.lookups_compile application.resolver weighed]
      change ∃ later, application.Leads _ ⟨.compiling [] (program.zip weights), world, []⟩
        ⟨match (Policy.compileAll application.resolver (program.zip weights)).result >>=
            fun directives => Except.ok (Policy.mk directives) with
          | .error error => .finished (.error error)
          | .ok policy => .compiling policy.directives [], world, later⟩
      obtain ⟨later, leads⟩ :=
        @leads_compileAll _ _ _ _ application world (program.zip weights) [] []
      refine ⟨later, ?_⟩
      cases ended : (Policy.compileAll application.resolver (program.zip weights)).result <;>
        rw [ended] at leads <;> exact leads

/-! ### The old policy -/

/-- The old policy is taken out of force. -/
theorem leads_teardown (next : Option Policy) (world : World σ ι ρ) (journal : List (Moment α)) :
    ∃ later, application.Leads [] (application.release next world journal)
      (application.freed next (world.teardown application.engine).1
        (world.teardown application.engine).2 later) := by
  unfold release World.teardown
  cases active : world.killSwitch.active with
  | none => exact ⟨journal, .refl _⟩
  | some installed =>
    cases opened : installed.session with
    | none =>
      simp only [Option.bind_some, opened, Installed.teardown]
      exact ⟨journal, .refl _⟩
    | some session =>
      simp only [Option.bind_some, opened, Installed.teardown]
      let emptied : World σ ι ρ :=
        { world with killSwitch := { world.killSwitch with active := none, settings := none } }
      let answered := application.engine.call session .close world.engine
      let answer := answered.1.mapError (PolicyError.install "close_session")
      let closed := journal ++ [.call (application.look answered.2)]
      let dropped := application.engine.drop session answered.2
      have close : application.Leads [] ⟨.closing session next, emptied, journal⟩
          ⟨.leaving session answer next, { emptied with engine := answered.2 }, closed⟩ :=
        .of_eq rfl (lookups_called ..)
      have leave : application.Leads []
          ⟨.leaving session answer next, { emptied with engine := answered.2 }, closed⟩
          (application.freed next answer { emptied with engine := dropped }
            (closed ++ [.call (application.look dropped)])) := by
        refine .of_eq rfl ?_
        rw [lookups_freed, List.filterMap_append]
        rfl
      exact ⟨_, close.trans leave⟩

/-! ### The new policy -/

/-- An installation that has not ended makes its next call. -/
theorem advance_installing (policy : Policy) {stage : Stage ι}
    (unfinished : ∀ result, stage ≠ .finished result) (world : World σ ι ρ)
    (journal : List (Moment α)) :
    let stepped := stage.step application.engine world.killSwitch.options policy world.engine
    application.advance ⟨.installing policy stage, world, journal⟩ =
      ⟨.installing policy stepped.1, { world with engine := stepped.2 },
        journal ++ [.call (application.look stepped.2)]⟩ := by
  cases stage with
  | finished result => exact absurd rfl (unfinished result)
  | _ => rfl

/-- The calls of an installation, one after the other. -/
theorem leads_stage (policy : Policy) (stage : Stage ι) (world : World σ ι ρ)
    (journal : List (Moment α)) (n : Nat) :
    let reached :=
      (Stage.advance application.engine world.killSwitch.options policy)^[n] (stage, world.engine)
    ∃ later, application.Leads [] ⟨.installing policy stage, world, journal⟩
      ⟨.installing policy reached.1, { world with engine := reached.2 }, later⟩ := by
  induction n with
  | zero => exact ⟨journal, .refl _⟩
  | succ n ih =>
    obtain ⟨later, leads⟩ := ih
    rw [Function.iterate_succ_apply']
    generalize (Stage.advance application.engine world.killSwitch.options policy)^[n]
      (stage, world.engine) = reached at leads ⊢
    obtain ⟨stage, state⟩ := reached
    rcases stage.unfinished_or with unfinished | ⟨result, rfl⟩
    · have moved := @advance_installing _ _ _ _ application policy stage unfinished
        { world with engine := state } later
      exact ⟨_, leads.trans (.of_eq moved (lookups_called ..))⟩
    · exact ⟨later, leads⟩

/-- A policy is installed, call by call. -/
theorem leads_install (policy : Policy) (world : World σ ι ρ) (journal : List (Moment α)) :
    let installation :=
      policy.install application.engine world.killSwitch.options world.engine
    ∃ later, application.Leads [] ⟨.installing policy .opening, world, journal⟩
      ⟨.installing policy (.finished installation.1), { world with engine := installation.2 },
        later⟩ := by
  obtain ⟨n, reached⟩ := Stage.exists_iterate_eq_install application.engine
    world.killSwitch.options policy world.engine
  obtain ⟨later, leads⟩ := @leads_stage _ _ _ _ application policy .opening world journal n
  rw [reached] at leads
  exact ⟨later, leads⟩

/-- The old policy is taken out of force and the new one installed, unless something fails. -/
theorem leads_swap (policy : Policy) (world : World σ ι ρ) (journal : List (Moment α)) :
    ∃ later, application.Leads [] ⟨.compiling policy.directives [], world, journal⟩
      (match world.swap application.engine policy with
      | (.error error, next) =>
        ⟨.finished (.error error), next.moveRoutes application.manager none, later⟩
      | (.ok installed, next) =>
        ⟨.finished (.ok ()),
          { next with killSwitch := { next.killSwitch with
            active := some installed, settings := some application.settings } }.moveRoutes
              application.manager application.vpnAddress, later⟩) := by
  obtain ⟨later, releasing⟩ := @leads_teardown _ _ _ _ application (some policy) world journal
  have turned : application.Leads [] ⟨.compiling policy.directives [], world, journal⟩
      (application.release (some policy) world journal) :=
    .of_eq rfl ((lookups_release ..).trans (List.append_nil _).symm)
  have torn := turned.trans releasing
  rw [World.swap]
  rcases ended : world.teardown application.engine with ⟨error | _, next⟩ <;> rw [ended] at torn
  · exact ⟨later, torn⟩
  · obtain ⟨last, installing⟩ := @leads_install _ _ _ _ application policy next later
    dsimp only
    rcases done : policy.install application.engine next.killSwitch.options next.engine with
      ⟨error | installed, state⟩ <;> rw [done] at installing
    · exact ⟨last, (torn.trans installing).trans (.of_eq rfl (List.append_nil _).symm)⟩
    · exact ⟨last, (torn.trans installing).trans (.of_eq rfl (List.append_nil _).symm)⟩

/-- The turns of an application lead to its outcome, and its lookups are those that they make. -/
theorem exists_iterate_eq_apply (application : Application σ ι ρ α) (world : World σ ι ρ) :
    ∃ n journal, application.advance^[n] (application.start world) =
        ⟨.finished (application.outcome world).1.result, (application.outcome world).2, journal⟩ ∧
      journal.filterMap Moment.lookup? = (application.outcome world).1.lookups := by
  suffices leads : ∃ journal, application.Leads (application.outcome world).1.lookups
      (application.start world)
      ⟨.finished (application.outcome world).1.result, (application.outcome world).2, journal⟩ by
    obtain ⟨journal, ⟨n, reached⟩, lookups⟩ := leads
    refine ⟨n, journal, reached, lookups.trans ?_⟩
    rw [lookups_start, List.nil_append]
  have went := World.applied application.engine application.manager application.resolver
    application.settings application.vpnAddress world
  change World.Applied _ _ _ _ _ _ (application.outcome world).1
    (application.outcome world).2 at went
  generalize (application.outcome world).1 = looked at went ⊢
  generalize (application.outcome world).2 = final at went ⊢
  cases went with
  | kept current =>
    refine ⟨[], ?_⟩
    rw [World.Current] at current
    rw [start, if_pos current]
    exact .refl _
  | stopped fresh unwanted =>
    obtain ⟨later, leads⟩ := @leads_teardown _ _ _ _ application none
      (world.moveRoutes application.manager none) []
    rw [World.Current] at fresh
    refine ⟨later, ?_⟩
    rw [start, if_neg fresh, unwanted]
    exact leads
  | uncompiled fresh wanted refused untouched =>
    obtain ⟨later, leads⟩ := leads_compile fresh wanted
    rw [refused] at leads
    exact ⟨later, leads⟩
  | @failed fresh wanted policy compiled error next swapped =>
    obtain ⟨later, compiling⟩ := leads_compile fresh wanted
    obtain ⟨last, swapping⟩ := @leads_swap _ _ _ _ application policy world later
    rw [compiled] at compiling
    rw [swapped] at swapping
    exact ⟨last, List.append_nil (application.settings.builder.compile _).lookups ▸
      compiling.trans swapping⟩
  | @installed fresh wanted policy compiled installed next swapped =>
    obtain ⟨later, compiling⟩ := leads_compile fresh wanted
    obtain ⟨last, swapping⟩ := @leads_swap _ _ _ _ application policy world later
    rw [compiled] at compiling
    rw [swapped] at swapping
    exact ⟨last, List.append_nil (application.settings.builder.compile _).lookups ▸
      compiling.trans swapping⟩

end Application

end TrafficPolicy
