import TrafficPolicy.KillSwitch

/-!
# The ways an application can go

`World.Applied` lists the ways in which `World.apply` can go, each with what decides for it and
with what comes of it, and `applied` says that there are no others.
-/

namespace TrafficPolicy

/-- The kill switch has nothing in force and remembers nothing. -/
structure KillSwitch.Cleared {ι : Type} (killSwitch : KillSwitch ι) : Prop where
  active : killSwitch.active = none
  settings : killSwitch.settings = none
  address : killSwitch.vpnAddress = none

namespace World

variable {σ ι ρ : Type}

@[simp]
theorem engine_moveRoutes (manager : RouteManager ρ) (target : Option Address)
    (world : World σ ι ρ) : (world.moveRoutes manager target).engine = world.engine := by
  unfold moveRoutes
  split <;> rfl

@[simp]
theorem active_moveRoutes (manager : RouteManager ρ) (target : Option Address)
    (world : World σ ι ρ) :
    (world.moveRoutes manager target).killSwitch.active = world.killSwitch.active := by
  unfold moveRoutes
  split <;> rfl

@[simp]
theorem settings_moveRoutes (manager : RouteManager ρ) (target : Option Address)
    (world : World σ ι ρ) :
    (world.moveRoutes manager target).killSwitch.settings = world.killSwitch.settings := by
  unfold moveRoutes
  split <;> rfl

@[simp]
theorem vpnAddress_moveRoutes (manager : RouteManager ρ) (target : Option Address)
    (world : World σ ι ρ) :
    (world.moveRoutes manager target).killSwitch.vpnAddress = target := by
  unfold moveRoutes
  split
  next same => exact same
  next => rfl

/-- Where nothing is in force there is nothing to stop, whatever the engine and the routes. -/
theorem stop_of_cleared {world : World σ ι ρ} (cleared : world.killSwitch.Cleared)
    (engine : Engine σ ι) (manager : RouteManager ρ) :
    world.stop engine manager = (.ok (), world) := by
  obtain ⟨⟨options, active, settings, vpnAddress⟩, state, routes⟩ := world
  obtain ⟨active_eq, settings_eq, address_eq⟩ := cleared
  cases active_eq
  cases settings_eq
  cases address_eq
  rfl

/-- The kill switch has the settings and the address already. -/
def Current (settings : Settings) (vpnAddress : Option Address) (world : World σ ι ρ) : Prop :=
  (world.killSwitch.isEnabled && world.killSwitch.remembers settings vpnAddress) = true

/-- What an application of settings gives, by the way it goes. -/
inductive Applied (engine : Engine σ ι) (manager : RouteManager ρ) (resolver : Resolver)
    (settings : Settings) (vpnAddress : Option Address) (world : World σ ι ρ) :
    Looked Unit → World σ ι ρ → Prop
  /-- The settings are in force already. -/
  | kept (current : world.Current settings vpnAddress) :
    Applied engine manager resolver settings vpnAddress world (.ofExcept (.ok ())) world
  /-- The settings switch the kill switch off. -/
  | stopped (fresh : ¬ world.Current settings vpnAddress)
    (unwanted : settings.enableKillSwitch = false) :
    Applied engine manager resolver settings vpnAddress world
      (.ofExcept (world.stop engine manager).1) (world.stop engine manager).2
  /-- The settings cannot be compiled, whatever the engine and the routes. -/
  | uncompiled (fresh : ¬ world.Current settings vpnAddress)
    (wanted : settings.enableKillSwitch = true) {error : PolicyError}
    (refused : (settings.builder.compile resolver).result = .error error)
    (untouched : ∀ engine manager, world.apply engine manager resolver settings vpnAddress =
      (⟨(settings.builder.compile resolver).lookups, .error error⟩, world)) :
    Applied engine manager resolver settings vpnAddress world
      ⟨(settings.builder.compile resolver).lookups, .error error⟩ world
  /-- The policy could not be swapped. -/
  | failed (fresh : ¬ world.Current settings vpnAddress)
    (wanted : settings.enableKillSwitch = true) {policy : Policy}
    (compiled : (settings.builder.compile resolver).result = .ok policy) {error : PolicyError}
    {next : World σ ι ρ} (swapped : world.swap engine policy = (.error error, next)) :
    Applied engine manager resolver settings vpnAddress world
      ⟨(settings.builder.compile resolver).lookups, .error error⟩ (next.moveRoutes manager none)
  /-- The new policy is in force. -/
  | installed (fresh : ¬ world.Current settings vpnAddress)
    (wanted : settings.enableKillSwitch = true) {policy : Policy}
    (compiled : (settings.builder.compile resolver).result = .ok policy)
    {installed : Installed ι} {next : World σ ι ρ}
    (swapped : world.swap engine policy = (.ok installed, next)) :
    Applied engine manager resolver settings vpnAddress world
      ⟨(settings.builder.compile resolver).lookups, .ok ()⟩
      ({ next with
        killSwitch :=
          { next.killSwitch with active := some installed, settings := some settings } }.moveRoutes
        manager vpnAddress)

theorem applied (engine : Engine σ ι) (manager : RouteManager ρ) (resolver : Resolver)
    (settings : Settings) (vpnAddress : Option Address) (world : World σ ι ρ) :
    Applied engine manager resolver settings vpnAddress world
      (world.apply engine manager resolver settings vpnAddress).1
      (world.apply engine manager resolver settings vpnAddress).2 := by
  by_cases unchanged : world.Current settings vpnAddress
  · have eq : world.apply engine manager resolver settings vpnAddress =
        (.ofExcept (.ok ()), world) := if_pos unchanged
    rw [eq]
    exact .kept unchanged
  have differs := unchanged
  rw [Current] at differs
  cases wanted : settings.enableKillSwitch with
  | false =>
    have eq : world.apply engine manager resolver settings vpnAddress =
        (.ofExcept (world.stop engine manager).1, (world.stop engine manager).2) := by
      rw [apply, if_neg differs, wanted]
      rfl
    rw [eq]
    exact .stopped unchanged wanted
  | true =>
    cases compiled : (settings.builder.compile resolver).result with
    | error error =>
      have untouched : ∀ engine manager, world.apply engine manager resolver settings vpnAddress =
          (⟨(settings.builder.compile resolver).lookups, .error error⟩, world) := by
        intro engine manager
        rw [apply, if_neg differs, wanted]
        simp only [Bool.not_true, Bool.false_eq_true, if_false, compiled]
      rw [untouched]
      exact .uncompiled unchanged wanted compiled untouched
    | ok policy =>
      rcases swapped : world.swap engine policy with ⟨error | installed, next⟩
      · have eq : world.apply engine manager resolver settings vpnAddress =
            (⟨(settings.builder.compile resolver).lookups, .error error⟩,
              next.moveRoutes manager none) := by
          rw [apply, if_neg differs, wanted]
          simp only [Bool.not_true, Bool.false_eq_true, if_false, compiled, swapped]
        rw [eq]
        exact .failed unchanged wanted compiled swapped
      · have eq : world.apply engine manager resolver settings vpnAddress =
            (⟨(settings.builder.compile resolver).lookups, .ok ()⟩,
              { next with killSwitch := { next.killSwitch with
                  active := some installed, settings := some settings } }.moveRoutes manager
                vpnAddress) := by
          rw [apply, if_neg differs, wanted]
          simp only [Bool.not_true, Bool.false_eq_true, if_false, compiled, swapped]
        rw [eq]
        exact .installed unchanged wanted compiled swapped

end World

end TrafficPolicy
