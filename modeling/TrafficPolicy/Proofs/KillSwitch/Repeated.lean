import TrafficPolicy.Engine.Watched
import TrafficPolicy.Proofs.KillSwitch.Routes
import TrafficPolicy.Proofs.Policy.Spelling

/-!
# Applying settings again

Settings that were applied with success leave the kill switch nothing to do for them: it has them,
or they switch it off and it has nothing (`World.Settled`).  Which of the two holds can be read off
the kill switch alone, so neither faults of the engine nor failing routes can undo it, and the same
settings do nothing when they are applied again (`World.repeated_does_nothing`).
-/

namespace TrafficPolicy

variable {σ ι ρ α : Type}

namespace World

/-- The kill switch has nothing to do for settings and an address: it has them already, or they
switch it off and nothing is in force. -/
def Settled (settings : Settings) (vpnAddress : Option Address) (world : World σ ι ρ) : Prop :=
  world.Current settings vpnAddress ∨
    settings.enableKillSwitch = false ∧ world.killSwitch.Cleared

variable {world : World σ ι ρ} {settings other : Settings} {vpnAddress : Option Address}

theorem current_iff :
    world.Current settings vpnAddress ↔ world.killSwitch.isEnabled = true ∧
      (∃ kept, world.killSwitch.settings = some kept ∧ kept.same settings = true) ∧
      world.killSwitch.vpnAddress = vpnAddress := by
  rw [Current, KillSwitch.remembers, Bool.and_eq_true, Bool.and_eq_true, decide_eq_true_eq,
    Option.any_eq_true]

theorem Current.of_same (current : world.Current settings vpnAddress)
    (same : settings.same other = true) : world.Current other vpnAddress := by
  obtain ⟨enabled, ⟨kept, remembered, alike⟩, address⟩ := current_iff.mp current
  exact current_iff.mpr
    ⟨enabled, ⟨kept, remembered, Settings.same_trans alike same⟩, address⟩

theorem Settled.of_same (settled : world.Settled settings vpnAddress)
    (same : settings.same other = true) : world.Settled other vpnAddress := by
  rcases settled with current | ⟨unwanted, cleared⟩
  · exact Or.inl (current.of_same same)
  · exact Or.inr ⟨Settings.enable_eq_of_same same ▸ unwanted, cleared⟩

theorem Settled.of_killSwitch {later : World σ ι ρ} (settled : world.Settled settings vpnAddress)
    (kept : later.killSwitch = world.killSwitch) : later.Settled settings vpnAddress := by
  rw [Settled, Current, kept]
  exact settled

/-- Whatever the engine answers, a kill switch that was stopped has nothing. -/
theorem cleared_stop (engine : Engine σ ι) (manager : RouteManager ρ) (world : World σ ι ρ) :
    (world.stop engine manager).2.killSwitch.Cleared := by
  obtain ⟨state, torn⟩ := teardown_eq engine (world.moveRoutes manager none)
  rw [stop, torn]
  exact ⟨rfl, rfl, vpnAddress_moveRoutes manager none world⟩

/-- Settings that were applied with success leave nothing to do for them. -/
theorem settled_of_apply {engine : Engine σ ι} {manager : RouteManager ρ} {resolver : Resolver}
    (succeeded :
      (world.apply engine manager resolver settings vpnAddress).1.result = .ok ()) :
    (world.apply engine manager resolver settings vpnAddress).2.Settled settings vpnAddress := by
  have went := applied engine manager resolver settings vpnAddress world
  generalize world.apply engine manager resolver settings vpnAddress = outcome at went succeeded ⊢
  obtain ⟨looked, final⟩ := outcome
  dsimp only at went succeeded ⊢
  cases went with
  | kept current => exact Or.inl current
  | stopped fresh unwanted => exact Or.inr ⟨unwanted, cleared_stop engine manager world⟩
  | uncompiled => cases succeeded
  | failed => cases succeeded
  | installed fresh wanted compiled swapped =>
    refine Or.inl (current_iff.mpr
      ⟨?_, ⟨settings, settings_moveRoutes .., settings.same_self⟩, vpnAddress_moveRoutes ..⟩)
    rw [KillSwitch.isEnabled, active_moveRoutes]
    exact isActive_of_swap swapped

theorem not_current_of_cleared (cleared : world.killSwitch.Cleared) (settings : Settings)
    (vpnAddress : Option Address) : ¬ world.Current settings vpnAddress := by
  intro current
  have enabled := (current_iff.mp current).1
  rw [KillSwitch.isEnabled, cleared.active] at enabled
  cases enabled

end World

namespace Application

variable {world : World σ ι ρ} {application : Application σ ι ρ α}

/-- A cleared kill switch is released at once. -/
theorem release_of_cleared (cleared : world.killSwitch.Cleared) :
    application.release none (world.moveRoutes application.manager none) [] =
      ⟨.finished (.ok ()), world, []⟩ := by
  obtain ⟨⟨options, active, settings, vpnAddress⟩, state, routes⟩ := world
  obtain ⟨active_eq, settings_eq, address_eq⟩ := cleared
  cases active_eq
  cases settings_eq
  cases address_eq
  rfl

/-- Where there is nothing to do, an application ends where it starts: nothing is in its journal. -/
theorem start_of_settled
    (settled : world.Settled application.settings application.vpnAddress) :
    application.start world = ⟨.finished (.ok ()), world, []⟩ := by
  rw [start]
  rcases settled with current | ⟨unwanted, cleared⟩
  · exact if_pos current
  · have fresh :=
      World.not_current_of_cleared cleared application.settings application.vpnAddress
    rw [World.Current] at fresh
    rw [if_neg fresh, unwanted]
    exact release_of_cleared cleared

/-- Where there is nothing to do, nothing is done. -/
theorem outcome_of_settled
    (settled : world.Settled application.settings application.vpnAddress) :
    application.outcome world = (⟨[], .ok ()⟩, world) := by
  rw [outcome, World.apply]
  rcases settled with current | ⟨unwanted, cleared⟩
  · exact if_pos current
  · have fresh :=
      World.not_current_of_cleared cleared application.settings application.vpnAddress
    rw [World.Current] at fresh
    rw [if_neg fresh, unwanted]
    have stopped := World.stop_of_cleared cleared application.engine application.manager
    rw [World.stop] at stopped
    simp only [stopped]
    rfl

end Application

namespace World

/-- Settings that were applied with success do nothing when they are applied again, be it that
they switch the kill switch on or off.  The second application succeeds without a lookup, and it
leaves the kill switch, the engine and the routes as they are whichever engine, routes and resolver
it has, so none of them is called.  A kill switch that was stopped, even if that failed, is not
stopped again: that succeeds and calls neither the engine nor the routes.

In between, faults may be armed and the engine and the routes may change in any other way. -/
theorem repeated_does_nothing (engine : Engine σ ι) (manager : RouteManager ρ)
    (world : World σ ι ρ) :
    (∀ (resolver : Resolver) (settings : Settings) (vpnAddress : Option Address),
      (world.apply engine manager resolver settings vpnAddress).1.result = .ok () →
      ∀ later : World σ ι ρ, later.killSwitch =
          (world.apply engine manager resolver settings vpnAddress).2.killSwitch →
        ∀ application : Application σ ι ρ α,
          settings.same application.settings = true → application.vpnAddress = vpnAddress →
          application.start later = ⟨.finished (.ok ()), later, []⟩ ∧
            application.outcome later = (⟨[], .ok ()⟩, later)) ∧
      ∀ later : World σ ι ρ, later.killSwitch = (world.stop engine manager).2.killSwitch →
        ∀ (engine : Engine σ ι) (manager : RouteManager ρ),
          later.stop engine manager = (.ok (), later) := by
  refine ⟨fun resolver settings vpnAddress succeeded later kept application same address => ?_,
    fun later kept engine manager => ?_⟩
  · have settled : later.Settled application.settings application.vpnAddress :=
      address ▸ ((settled_of_apply succeeded).of_killSwitch kept).of_same same
    exact ⟨application.start_of_settled settled, application.outcome_of_settled settled⟩
  · exact stop_of_cleared (kept ▸ cleared_stop _ _ world) engine manager

/-- The engine is set to refuse the next call that would close a session, and no such call is
made. -/
theorem repeated_with_fault_armed :
    let settings : Settings := { enableKillSwitch := true }
    let resolver := ({} : LookupTable).resolver
    let manager := (RouteManager.none : RouteManager Unit).recording
    let tunnel := some (Address.ofOctets 10 8 0 2)
    let started : World (Watched Memory SessionId) SessionId (Unit × List RouteCall) :=
      ⟨{}, ⟨{}, [], []⟩, (), []⟩
    let first := started.apply Memory.engine.watched manager resolver settings tunnel
    let armed := { first.2 with
      engine := first.2.engine.addFault ⟨"close", 1, ⟨5, "refused"⟩⟩ }
    first.1.result = .ok () ∧ armed.engine.trace.length = 35 ∧
      armed.apply Memory.engine.watched manager resolver settings tunnel =
        (⟨[], .ok ()⟩, armed) := by
  intro settings resolver manager tunnel started first armed
  have is : started.apply Memory.engine.watched manager resolver settings tunnel = first := rfl
  have succeeded : (started.apply Memory.engine.watched manager resolver settings
      tunnel).1.result = .ok () := by
    decide +kernel
  have noted : armed.engine.trace.length = 35 := by
    decide +kernel
  have again := (repeated_does_nothing (α := Unit) Memory.engine.watched manager started).1
    resolver settings tunnel succeeded
  rw [is] at succeeded again
  refine ⟨succeeded, noted, ?_⟩
  -- What the first application comes to plays no part from here on.
  clear_value first
  exact (again armed rfl ⟨Memory.engine.watched, manager, resolver, settings, tunnel,
    fun _ => ()⟩ settings.same_self rfl).2

end World

end TrafficPolicy
