import TrafficPolicy.Proofs.KillSwitch.Turns

/-!
# Applications on engines that keep a record

`Engine.recording` puts a record beside an engine: after every call that is made on it, there is
written down what one sees in the engine then.  Nothing else about the engine changes.

The journal that the turns of an application keep is no more than that.  On an engine with a
record the turns are the same (`advance_recorded`), so the application comes to the same, and the
record that it leaves has just what its journal has of the calls (`apply_recorded`).
-/

namespace TrafficPolicy

/-- What there is to see after a moment that is a call. -/
def Moment.seen? {α : Type} : Moment α → Option α
  | lookup .. => none
  | call seen => some seen

section Recording

variable {σ ι ρ α : Type}

/-- An engine beside which there is written down what one sees after every call. -/
def Engine.recording (look : σ → α) (engine : Engine σ ι) : Engine (σ × List α) ι where
  openSession name description state :=
    let (answer, next) := engine.openSession name description state.1
    (answer, next, state.2 ++ [look next])
  call session call state :=
    let (answer, next) := engine.call session call state.1
    (answer, next, state.2 ++ [look next])
  drop session state :=
    let next := engine.drop session state.1
    (next, state.2 ++ [look next])

/-- The same world, with a record beside the engine. -/
def World.recorded (record : List α) (world : World σ ι ρ) : World (σ × List α) ι ρ :=
  ⟨world.killSwitch, (world.engine, record), world.routes⟩

theorem World.moveRoutes_recorded (manager : RouteManager ρ) (target : Option Address)
    (world : World σ ι ρ) (record : List α) :
    (world.recorded record).moveRoutes manager target =
      (world.moveRoutes manager target).recorded record := by
  unfold World.moveRoutes World.recorded
  dsimp only
  split <;> rfl

theorem Engine.request_recording (look : σ → α) (engine : Engine σ ι) (session : ι) (call : Call)
    (state : σ) (record : List α) :
    (engine.recording look).request session call (state, record) =
      let (answer, next) := engine.request session call state
      (answer, next, record ++ [look next]) :=
  rfl

/-- Every step of an installation that has not ended makes one call. -/
theorem Stage.step_recording (look : σ → α) (engine : Engine σ ι) (options : InstallOptions)
    (policy : Policy) {stage : Stage ι} (unfinished : ∀ result, stage ≠ .finished result)
    (state : σ) (record : List α) :
    let stepped := stage.step engine options policy state
    stage.step (engine.recording look) options policy (state, record) =
      (stepped.1, stepped.2, record ++ [look stepped.2]) := by
  cases stage with
  | opening =>
    rcases opened : engine.openSession options.sessionName options.sessionDescription state with
      ⟨error | session, next⟩ <;>
      simp only [step, Engine.recording, opened]
  | beginning session =>
    simp only [step, Engine.request_recording]
    rcases engine.request session .begin state with ⟨error | _, next⟩ <;> rfl
  | naming session =>
    simp only [step, Engine.request_recording]
    rcases engine.request session (.addProvider _ _) state with ⟨error | provider, next⟩ <;> rfl
  | layering session provider =>
    simp only [step, Engine.request_recording]
    rcases engine.request session (.addSublayer _ _ _) state with ⟨error | sublayer, next⟩ <;> rfl
  | filling session ns ids =>
    simp only [step, Engine.request_recording]
    cases policy.filters[ids.length]? with
    | some filter =>
      dsimp only
      rcases engine.request session (.addFilter ns filter) state with ⟨error | id, next⟩ <;> rfl
    | none =>
      dsimp only
      rcases engine.request session .commit state with ⟨error | _, next⟩ <;> rfl
  | aborting session error => rfl
  | closing session error => rfl
  | leaving session error => rfl
  | finished result => exact absurd rfl (unfinished result)

/-- The same point on the way, if what the journal has of the calls is also written down beside
the engine. -/
def Progress.recorded (progress : Progress σ ι ρ α) : Progress (σ × List α) ι ρ α :=
  ⟨progress.turn, progress.world.recorded (progress.journal.filterMap Moment.seen?),
    progress.journal⟩

namespace Application

/-- The same application on the engine with a record. -/
def recording (application : Application σ ι ρ α) : Application (σ × List α) ι ρ α where
  engine := application.engine.recording application.look
  manager := application.manager
  resolver := application.resolver
  settings := application.settings
  vpnAddress := application.vpnAddress
  look state := application.look state.1

variable (application : Application σ ι ρ α)

theorem freed_recorded (next : Option Policy) (answer : Except PolicyError Unit)
    (world : World σ ι ρ) (journal : List (Moment α)) :
    application.recording.freed next answer
        (world.recorded (journal.filterMap Moment.seen?)) journal =
      (application.freed next answer world journal).recorded := by
  cases next with
  | none => rfl
  | some policy =>
    cases answer with
    | ok _ => rfl
    | error error =>
      unfold freed recording
      rw [World.moveRoutes_recorded]
      rfl

theorem release_recorded (next : Option Policy) (world : World σ ι ρ)
    (journal : List (Moment α)) :
    application.recording.release next (world.recorded (journal.filterMap Moment.seen?)) journal =
      (application.release next world journal).recorded := by
  unfold release
  dsimp only [World.recorded]
  split
  · rfl
  · exact application.freed_recorded next (.ok ()) { world with
      killSwitch := { world.killSwitch with active := none, settings := none } } journal

theorem start_recorded (world : World σ ι ρ) :
    application.recording.start (world.recorded []) = (application.start world).recorded := by
  have settings : application.recording.settings = application.settings := rfl
  have killSwitch : (world.recorded ([] : List α)).killSwitch = world.killSwitch := rfl
  have vpnAddress : application.recording.vpnAddress = application.vpnAddress := rfl
  simp only [start, settings, killSwitch, vpnAddress]
  split
  · rfl
  · split
    · have moved := World.moveRoutes_recorded application.manager none world ([] : List α)
      exact (congrArg (application.recording.release none · []) moved).trans
        (application.release_recorded none _ [])
    · cases application.settings.builder.error with
      | some error => rfl
      | none =>
        dsimp only
        cases Assigned.ofProgram application.settings.builder.program <;> rfl

/-- What a call shows is written down in the journal and beside the engine. -/
theorem recorded_called (turn : Turn ι) (world : World σ ι ρ) (journal : List (Moment α))
    (state : σ) (seen : α) :
    (⟨turn, { world with engine := state }, journal ++ [.call seen]⟩ : Progress σ ι ρ α).recorded =
      ⟨turn, ⟨world.killSwitch, (state, journal.filterMap Moment.seen? ++ [seen]), world.routes⟩,
        journal ++ [.call seen]⟩ := by
  rw [Progress.recorded, List.filterMap_append]
  rfl

/-- Lookups are not written down beside the engine. -/
theorem seen_lookups (journal : List (Moment α)) (lookups : List Lookup) (seen : α) :
    (journal ++ lookups.map fun asked => Moment.lookup asked seen).filterMap Moment.seen? =
      journal.filterMap Moment.seen? := by
  have none : (lookups.map fun asked => Moment.lookup asked seen).filterMap Moment.seen? = [] :=
    List.filterMap_eq_nil_iff.mpr fun moment member => by
      obtain ⟨asked, _, rfl⟩ := List.mem_map.mp member
      rfl
  rw [List.filterMap_append, none, List.append_nil]

/-- What an application does next does not depend on the record. -/
theorem advance_recorded (progress : Progress σ ι ρ α) :
    application.recording.advance progress.recorded =
      (application.advance progress).recorded := by
  obtain ⟨turn, world, journal⟩ := progress
  cases turn with
  | compiling done rest =>
    cases rest with
    | nil => exact application.release_recorded (some ⟨done⟩) world journal
    | cons entry rest =>
      obtain ⟨directive, weight⟩ := entry
      have resolver : application.recording.resolver = application.resolver := rfl
      simp only [advance, Progress.recorded, resolver]
      cases (directive.compile application.resolver weight).result <;>
        simp only [seen_lookups] <;> rfl
  | closing session next =>
    simp only [advance, recorded_called]
    rfl
  | leaving session answer next =>
    have freed := application.freed_recorded next answer
      { world with engine := application.engine.drop session world.engine }
      (journal ++ [.call (application.look (application.engine.drop session world.engine))])
    rw [List.filterMap_append] at freed
    exact freed
  | installing policy stage =>
    rcases stage.unfinished_or with unfinished | ⟨result, rfl⟩
    · rw [advance_installing policy unfinished, recorded_called]
      refine (advance_installing policy unfinished _ _).trans ?_
      have stepped := Stage.step_recording application.look application.engine
        world.killSwitch.options policy unfinished world.engine (journal.filterMap Moment.seen?)
      change stage.step application.recording.engine world.killSwitch.options policy
        (world.engine, journal.filterMap Moment.seen?) = _ at stepped
      simp only [World.recorded, stepped]
      rfl
    · cases result with
      | ok installed =>
        exact congrArg (Progress.mk (.finished (.ok ())) · journal)
          (World.moveRoutes_recorded application.manager application.vpnAddress
            { world with killSwitch := { world.killSwitch with
              active := some installed, settings := some application.settings } } _)
      | error error =>
        exact congrArg (Progress.mk (.finished (.error error)) · journal)
          (World.moveRoutes_recorded application.manager none world _)
  | finished result => rfl

/-- The turns of an application lead to its outcome.  Their journal has its lookups, and has of the
calls what is written down beside an engine with a record, where the application comes to the
same. -/
theorem exists_iterate_eq_recorded (world : World σ ι ρ) :
    ∃ n journal, application.advance^[n] (application.start world) =
        ⟨.finished (application.outcome world).1.result, (application.outcome world).2, journal⟩ ∧
      journal.filterMap Moment.lookup? = (application.outcome world).1.lookups ∧
      application.recording.outcome (world.recorded []) = ((application.outcome world).1,
        (application.outcome world).2.recorded (journal.filterMap Moment.seen?)) := by
  obtain ⟨n, journal, reached, lookups⟩ := application.exists_iterate_eq_apply world
  obtain ⟨m, record, recorded, asked⟩ :=
    application.recording.exists_iterate_eq_apply (world.recorded [])
  refine ⟨n, journal, reached, lookups, ?_⟩
  -- both have ended after `m + n` turns, and they go the same way
  have same : application.recording.advance^[m + n] (application.start world).recorded =
      (application.advance^[m + n] (application.start world)).recorded :=
    (Function.Semiconj.iterate_right (fun progress =>
      (application.advance_recorded progress).symm) (m + n) _).symm
  have ended : application.advance^[m + n] (application.start world) =
      ⟨.finished (application.outcome world).1.result, (application.outcome world).2, journal⟩ := by
    rw [Function.iterate_add_apply, reached, Function.iterate_fixed rfl]
  rw [ended, ← start_recorded, Nat.add_comm, Function.iterate_add_apply, recorded,
    Function.iterate_fixed rfl] at same
  obtain ⟨result, final, rfl⟩ := Progress.mk.inj same
  refine Prod.ext ?_ final
  exact congrArg₂ Looked.mk (asked.symm.trans lookups) (Turn.finished.inj result)

end Application

end Recording

end TrafficPolicy
