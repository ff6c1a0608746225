import TrafficPolicy.Engine.Memory
import TrafficPolicy.Proofs.KillSwitch.Committed

/-!
# The calls on the split routes

`RouteManager.recording` writes down every call on the split routes, whether it fails or not, and
changes nothing else.  What is written down moves from one address to the next: the routes of an
address are taken away before those of another are added (`World.Routed.paired`).

When the routes are added can be read off the turns of an application.  Only one turn adds routes,
and the turn before it is the commit of the new policy (`Application.committed_of_installed`).
-/

namespace TrafficPolicy

/-- A call on the split routes. -/
inductive RouteCall where
  | add (address : Address)
  | remove (address : Address)
  deriving DecidableEq, Repr

namespace RouteCall

/-- Addresses whose routes were added and removed again, one after the other, and then one whose
routes are still there. -/
def paired (gone : List Address) (outstanding : Option Address) : List RouteCall :=
  gone.flatMap (fun address => [add address, remove address]) ++ outstanding.toList.map add

/-- The calls that move the routes from one address to another. -/
def moves (old target : Option Address) : List RouteCall :=
  if old = target then [] else old.toList.map remove ++ target.toList.map add

theorem exists_paired_moves (gone : List Address) (old target : Option Address) :
    ∃ later, paired gone old ++ moves old target = paired later target := by
  rw [moves]
  by_cases same : old = target
  · rw [if_pos same, List.append_nil, same]
    exact ⟨gone, rfl⟩
  · rw [if_neg same]
    refine ⟨gone ++ old.toList, ?_⟩
    cases old <;> simp [paired]

theorem add_notMem_moves_none (old : Option Address) (address : Address) :
    add address ∉ moves old none := by
  cases old <;> simp [moves]

end RouteCall

variable {σ ι ρ α : Type}

/-- A manager beside which every call on the routes is written down. -/
def RouteManager.recording (manager : RouteManager ρ) : RouteManager (ρ × List RouteCall) where
  add address routes :=
    let (answer, next) := manager.add address routes.1
    (answer, next, routes.2 ++ [.add address])
  remove address routes :=
    let (answer, next) := manager.remove address routes.1
    (answer, next, routes.2 ++ [.remove address])

namespace World

/-! ## The record of a kill switch -/

/-- The calls on the routes that were written down. -/
def routeCalls (world : World σ ι (ρ × List RouteCall)) : List RouteCall :=
  world.routes.2

/-- The world without the record. -/
def bare (world : World σ ι (ρ × List RouteCall)) : World σ ι ρ :=
  ⟨world.killSwitch, world.engine, world.routes.1⟩

theorem moveRoutes_recording (manager : RouteManager ρ) (target : Option Address)
    (world : World σ ι (ρ × List RouteCall)) :
    world.moveRoutes manager.recording target =
      ⟨{ world.killSwitch with vpnAddress := target }, world.engine,
        (world.bare.moveRoutes manager target).routes,
        world.routeCalls ++ RouteCall.moves world.killSwitch.vpnAddress target⟩ := by
  obtain ⟨⟨options, active, settings, old⟩, state, routes, calls⟩ := world
  simp only [moveRoutes, bare, routeCalls, RouteCall.moves]
  by_cases same : old = target
  · subst same
    simp
  · cases old <;> cases target <;> simp_all [RouteManager.recording]

theorem bare_moveRoutes (manager : RouteManager ρ) (target : Option Address)
    (world : World σ ι (ρ × List RouteCall)) :
    (world.moveRoutes manager.recording target).bare = world.bare.moveRoutes manager target := by
  rw [moveRoutes_recording]
  unfold bare moveRoutes
  dsimp only
  split
  next same => rw [← same]
  next => rfl

/-- A teardown leaves the routes as they are, and what is remembered of them. -/
theorem teardown_eq (engine : Engine σ ι) (world : World σ ι ρ) :
    ∃ state, (world.teardown engine).2 =
      ⟨{ world.killSwitch with active := none, settings := none }, state, world.routes⟩ := by
  rw [teardown]
  cases world.killSwitch.active <;> exact ⟨_, rfl⟩

theorem swap_eq (engine : Engine σ ι) (policy : Policy) (world : World σ ι ρ) :
    ∃ state, (world.swap engine policy).2 =
      ⟨{ world.killSwitch with active := none, settings := none }, state, world.routes⟩ := by
  obtain ⟨state, torn⟩ := teardown_eq engine world
  rw [swap]
  rcases ended : world.teardown engine with ⟨error | _, next⟩ <;>
    rw [ended] at torn <;> subst torn <;> exact ⟨_, rfl⟩

theorem isActive_of_install {engine : Engine σ ι} {options : InstallOptions} {policy : Policy}
    {state after : σ} {installed : Installed ι}
    (done : policy.install engine options state = (.ok installed, after)) :
    installed.isActive = true := by
  rw [Policy.install] at done
  split at done
  · cases done
  · split at done
    · cases done
    · split at done <;> cases done
      rfl

theorem isActive_of_swap {engine : Engine σ ι} {policy : Policy} {world next : World σ ι ρ}
    {installed : Installed ι} (swapped : world.swap engine policy = (.ok installed, next)) :
    installed.isActive = true := by
  rw [swap] at swapped
  rcases ended : world.teardown engine with ⟨error | _, torn⟩ <;> rw [ended] at swapped
  · cases swapped
  · obtain ⟨done, _⟩ := Prod.mk.inj swapped
    exact isActive_of_install (Prod.ext done rfl)

/-! ## Runs -/

/-- The address of the last application that asked for the kill switch and succeeded, after one
more application. -/
def lastTunnel (settings : Settings) (vpnAddress : Option Address)
    (result : Except PolicyError Unit) (before : Option Address) : Option Address :=
  if settings.enableKillSwitch && result.isOk then vpnAddress else before

/-- What calls of a kill switch lead to, with a record of the calls on the routes.  Any call on the
engine and on the routes may fail, a resolver may change its answers, and between the calls the
engine and the routes may change.  The address is that of the last application that asked for the
kill switch and succeeded. -/
inductive Routed : Option Address → World σ ι (ρ × List RouteCall) → Prop
  | start (options : InstallOptions) (state : σ) (routes : ρ) :
    Routed none ⟨{ options }, state, routes, []⟩
  | apply (engine : Engine σ ι) (manager : RouteManager ρ) (resolver : Resolver)
    (settings : Settings) (vpnAddress : Option Address) {tunnel : Option Address}
    {world : World σ ι (ρ × List RouteCall)} :
    Routed tunnel world →
    Routed
      (lastTunnel settings vpnAddress
        (world.apply engine manager.recording resolver settings vpnAddress).1.result tunnel)
      (world.apply engine manager.recording resolver settings vpnAddress).2
  | stop (engine : Engine σ ι) (manager : RouteManager ρ) {tunnel : Option Address}
    {world : World σ ι (ρ × List RouteCall)} :
    Routed tunnel world → Routed tunnel (world.stop engine manager.recording).2
  | disturb (state : σ) (routes : ρ) {tunnel : Option Address}
    {world : World σ ι (ρ × List RouteCall)} :
    Routed tunnel world →
    Routed tunnel { world with engine := state, routes := (routes, world.routeCalls) }

/-- The calls on the routes pair up, but for an address whose routes are still there. -/
def PairedBut (outstanding : Option Address) (world : World σ ι (ρ × List RouteCall)) : Prop :=
  ∃ gone, world.routeCalls = RouteCall.paired gone outstanding

/-- The routes go from one address to the next, and lead where the kill switch thinks they do: to
the last tunnel, and only while a policy is in force. -/
structure Paired (tunnel : Option Address) (world : World σ ι (ρ × List RouteCall)) : Prop where
  calls : world.PairedBut world.killSwitch.vpnAddress
  inForce : ∀ address, world.killSwitch.vpnAddress = some address →
    world.killSwitch.isEnabled = true ∧ tunnel = some address

section Runs

variable {world next : World σ ι (ρ × List RouteCall)} {tunnel : Option Address}

theorem PairedBut.moveRoutes (calls : world.PairedBut world.killSwitch.vpnAddress)
    (manager : RouteManager ρ) (target : Option Address) :
    (world.moveRoutes manager.recording target).PairedBut target := by
  obtain ⟨gone, before⟩ := calls
  obtain ⟨later, after⟩ := RouteCall.exists_paired_moves gone world.killSwitch.vpnAddress target
  refine ⟨later, ?_⟩
  rw [moveRoutes_recording, ← after, ← before]
  rfl

/-- Routes that lead nowhere are in order. -/
theorem Paired.of_none (calls : next.PairedBut none)
    (nowhere : next.killSwitch.vpnAddress = none) : next.Paired tunnel := by
  refine ⟨nowhere ▸ calls, fun address is => ?_⟩
  rw [nowhere] at is
  cases is

theorem Paired.stop (paired : world.Paired tunnel) (engine : Engine σ ι)
    (manager : RouteManager ρ) : (world.stop engine manager.recording).2.Paired tunnel := by
  obtain ⟨state, torn⟩ := teardown_eq engine (world.moveRoutes manager.recording none)
  rw [World.stop, torn]
  exact .of_none (paired.calls.moveRoutes manager none) (vpnAddress_moveRoutes ..)

theorem Paired.apply (paired : world.Paired tunnel) (engine : Engine σ ι)
    (manager : RouteManager ρ) (resolver : Resolver) (settings : Settings)
    (vpnAddress : Option Address) :
    (world.apply engine manager.recording resolver settings vpnAddress).2.Paired
      (lastTunnel settings vpnAddress
        (world.apply engine manager.recording resolver settings vpnAddress).1.result tunnel) := by
  have went := applied engine manager.recording resolver settings vpnAddress world
  generalize world.apply engine manager.recording resolver settings vpnAddress = outcome at went ⊢
  obtain ⟨looked, final⟩ := outcome
  dsimp only at went ⊢
  cases went with
  | kept current =>
    refine ⟨paired.calls, fun address is => ⟨(paired.inForce address is).1, ?_⟩⟩
    rw [Current, Bool.and_eq_true, KillSwitch.remembers, Bool.and_eq_true, decide_eq_true_eq]
      at current
    cases wanted : settings.enableKillSwitch with
    | false =>
      rw [lastTunnel, wanted]
      exact (paired.inForce address is).2
    | true =>
      rw [lastTunnel, wanted, ← is]
      exact current.2.2.symm
  | stopped fresh unwanted =>
    rw [lastTunnel, unwanted]
    exact paired.stop engine manager
  | uncompiled fresh wanted refused untouched =>
    rw [lastTunnel, wanted]
    exact paired
  | @failed fresh wanted policy compiled error next swapped =>
    obtain ⟨state, same⟩ := swap_eq engine policy world
    rw [swapped] at same
    subst same
    refine .of_none (PairedBut.moveRoutes ?_ manager none) (vpnAddress_moveRoutes ..)
    exact paired.calls
  | @installed fresh wanted policy compiled installed next swapped =>
    obtain ⟨state, same⟩ := swap_eq engine policy world
    rw [swapped] at same
    subst same
    rw [lastTunnel, wanted]
    refine ⟨?_, ?_⟩
    · rw [vpnAddress_moveRoutes]
      refine PairedBut.moveRoutes ?_ manager vpnAddress
      exact paired.calls
    · rw [moveRoutes_recording]
      exact fun address is => ⟨isActive_of_swap swapped, is⟩

theorem Routed.paired (routed : Routed tunnel world) : world.Paired tunnel := by
  induction routed with
  | start options state routes => exact .of_none ⟨[], rfl⟩ rfl
  | apply engine manager resolver settings vpnAddress _ ih =>
    exact ih.apply engine manager resolver settings vpnAddress
  | stop engine manager _ ih => exact ih.stop engine manager
  | disturb state routes _ ih => exact ⟨ih.calls, ih.inForce⟩

end Runs

end World

/-! ## When the routes are added -/

namespace World

/-- Nothing was done on the routes from one world to the next but taking some away. -/
def Sheds (world next : World σ ι (ρ × List RouteCall)) : Prop :=
  ∃ made, next.routeCalls = world.routeCalls ++ made ∧ ∀ address, .add address ∉ made

section Sheds

variable {world middle next : World σ ι (ρ × List RouteCall)}

theorem Sheds.of_eq (same : next.routeCalls = world.routeCalls) : world.Sheds next :=
  ⟨[], same.trans (List.append_nil _).symm, fun _ => List.not_mem_nil⟩

theorem Sheds.trans (first : world.Sheds middle) (second : middle.Sheds next) :
    world.Sheds next := by
  obtain ⟨made, before, shed⟩ := first
  obtain ⟨more, after, shedMore⟩ := second
  refine ⟨made ++ more, by rw [after, before, List.append_assoc], fun address member => ?_⟩
  exact (List.mem_append.mp member).elim (shed address) (shedMore address)

theorem Sheds.moveRoutes_none (manager : RouteManager ρ)
    (world : World σ ι (ρ × List RouteCall)) :
    world.Sheds (world.moveRoutes manager.recording none) := by
  rw [moveRoutes_recording]
  exact ⟨_, rfl, RouteCall.add_notMem_moves_none _⟩

end Sheds

end World

namespace Application

section Recorded

variable {application : Application σ ι (ρ × List RouteCall) α} {manager : RouteManager ρ}
  (recorded : application.manager = manager.recording)

include recorded

theorem sheds_freed (next : Option Policy) (answer : Except PolicyError Unit)
    (world : World σ ι (ρ × List RouteCall)) (journal : List (Moment α)) :
    world.Sheds (application.freed next answer world journal).world := by
  cases next with
  | none => exact .of_eq rfl
  | some policy =>
    cases answer with
    | ok _ => exact .of_eq rfl
    | error error =>
      rw [freed, recorded]
      exact .moveRoutes_none manager world

theorem sheds_release (next : Option Policy) (world : World σ ι (ρ × List RouteCall))
    (journal : List (Moment α)) :
    world.Sheds (application.release next world journal).world := by
  unfold release
  dsimp only
  split
  · exact .of_eq rfl
  · exact sheds_freed recorded next (.ok ()) _ journal

theorem sheds_start (world : World σ ι (ρ × List RouteCall)) :
    world.Sheds (application.start world).world := by
  unfold start
  split
  · exact .of_eq rfl
  split
  · rw [recorded]
    exact (World.Sheds.moveRoutes_none manager world).trans (sheds_release recorded none _ [])
  split
  · exact .of_eq rfl
  · split <;> exact .of_eq rfl

/-- Routes are added in no turn but the one that puts a policy into force. -/
theorem sheds_or_installed (progress : Progress σ ι (ρ × List RouteCall) α) :
    progress.world.Sheds (application.advance progress).world ∨
      (∃ policy installed, progress.turn = .installing policy (.finished (.ok installed))) ∧
        ∃ made, (application.advance progress).world.routeCalls =
          progress.world.routeCalls ++ made := by
  obtain ⟨turn, world, journal⟩ := progress
  cases turn with
  | compiling done rest =>
    refine Or.inl ?_
    cases rest with
    | nil => exact sheds_release recorded (some ⟨done⟩) world journal
    | cons entry rest =>
      obtain ⟨directive, weight⟩ := entry
      simp only [advance]
      split <;> exact .of_eq rfl
  | closing session next => exact Or.inl (.of_eq rfl)
  | leaving session answer next =>
    exact Or.inl (sheds_freed recorded next answer
      { world with engine := application.engine.drop session world.engine } _)
  | installing policy stage =>
    rcases stage.unfinished_or with unfinished | ⟨result, rfl⟩
    · rw [advance_installing policy unfinished]
      exact Or.inl (.of_eq rfl)
    · cases result with
      | error error =>
        simp only [advance, recorded]
        exact Or.inl (.moveRoutes_none manager world)
      | ok installed =>
        simp only [advance, recorded]
        rw [World.moveRoutes_recording]
        exact Or.inr ⟨⟨policy, installed, rfl⟩, _, rfl⟩
  | finished result => exact Or.inl (.of_eq rfl)

end Recorded

end Application

namespace World

/-! ## Runs without a record -/

section Bare

variable (engine : Engine σ ι) (manager : RouteManager ρ) (world : World σ ι (ρ × List RouteCall))

theorem bare_teardown :
    world.bare.teardown engine =
      ((world.teardown engine).1, (world.teardown engine).2.bare) := by
  unfold teardown bare
  dsimp only
  cases world.killSwitch.active <;> rfl

theorem bare_swap (policy : Policy) :
    world.bare.swap engine policy =
      ((world.swap engine policy).1, (world.swap engine policy).2.bare) := by
  rw [swap, swap, bare_teardown]
  rcases world.teardown engine with ⟨error | _, next⟩ <;> rfl

theorem bare_stop :
    world.bare.stop engine manager =
      ((world.stop engine manager.recording).1, (world.stop engine manager.recording).2.bare) := by
  rw [stop, stop, ← bare_moveRoutes, bare_teardown]

/-- A record of the calls on the routes changes nothing about an application. -/
theorem bare_apply (resolver : Resolver) (settings : Settings) (vpnAddress : Option Address) :
    world.bare.apply engine manager resolver settings vpnAddress =
      ((world.apply engine manager.recording resolver settings vpnAddress).1,
        (world.apply engine manager.recording resolver settings vpnAddress).2.bare) := by
  unfold apply
  have killSwitch : world.bare.killSwitch = world.killSwitch := rfl
  simp only [killSwitch, ← bare_moveRoutes, bare_teardown, bare_swap]
  split
  · rfl
  split
  · rfl
  cases (settings.builder.compile resolver).result with
  | error error => rfl
  | ok policy =>
    dsimp only
    rcases world.swap engine policy with ⟨error | installed, next⟩
    · exact congrArg (Prod.mk _) (bare_moveRoutes manager none next).symm
    · exact congrArg (Prod.mk _) (bare_moveRoutes manager vpnAddress { next with
        killSwitch := { next.killSwitch with
          active := some installed, settings := some settings } }).symm

end Bare

/-- Whatever fails, the calls on the routes of a kill switch always pair up: the routes of an
address are added, and taken away before those of another address are.  Routes that are still
there after a call are remembered as such, a policy is in force then, and they lead to the tunnel
of the last application that asked for the kill switch and succeeded.

A stop adds no routes.  An application adds them in the turn after the policy of its settings was
committed, and in no other.  That the calls are written down changes nothing else. -/
theorem routeCalls_paired {tunnel : Option Address} {world : World σ ι (ρ × List RouteCall)}
    (routed : Routed tunnel world) :
    (∃ gone outstanding, world.routeCalls = RouteCall.paired gone outstanding ∧
        world.killSwitch.vpnAddress = outstanding ∧
        ∀ address ∈ outstanding, world.killSwitch.isEnabled = true ∧ tunnel = some address) ∧
      (∀ (engine : Engine σ ι) (manager : RouteManager ρ),
        world.Sheds (world.stop engine manager.recording).2 ∧
          world.bare.stop engine manager =
            ((world.stop engine manager.recording).1,
              (world.stop engine manager.recording).2.bare)) ∧
      ∀ (application : Application σ ι (ρ × List RouteCall) α) (manager : RouteManager ρ),
        application.manager = manager.recording →
        let turn (n : Nat) := application.advance^[n] (application.start world)
        world.Sheds (turn 0).world ∧
          (∀ n, ∃ made, (turn (n + 1)).world.routeCalls = (turn n).world.routeCalls ++ made ∧
            ∀ address, .add address ∈ made → ∃ earlier policy, n = earlier + 1 ∧
              (application.settings.builder.compile application.resolver).result = .ok policy ∧
              application.Commits policy (turn earlier)) ∧
          (∃ n journal, turn n = ⟨.finished (application.outcome world).1.result,
            (application.outcome world).2, journal⟩) ∧
          world.bare.apply application.engine manager application.resolver application.settings
              application.vpnAddress =
            ((application.outcome world).1, (application.outcome world).2.bare) := by
  obtain ⟨⟨gone, calls⟩, inForce⟩ := routed.paired
  refine ⟨⟨gone, _, calls, rfl, inForce⟩, fun engine manager => ⟨?_, ?_⟩, ?_⟩
  · obtain ⟨state, torn⟩ := teardown_eq engine (world.moveRoutes manager.recording none)
    refine (Sheds.moveRoutes_none manager world).trans (.of_eq ?_)
    rw [stop, torn]
    rfl
  · exact bare_stop engine manager world
  · intro application manager recorded turn
    refine ⟨application.sheds_start recorded world, fun n => ?_, ?_, ?_⟩
    · have next : turn (n + 1) = application.advance (turn n) :=
        Function.iterate_succ_apply' ..
      rw [next]
      rcases application.sheds_or_installed recorded (turn n) with
        ⟨made, same, shed⟩ | ⟨⟨policy, installed, turned⟩, made, same⟩
      · exact ⟨made, same, fun address member => absurd member (shed address)⟩
      · obtain ⟨earlier, later, compiled, commits⟩ := Application.committed_of_installed turned
        exact ⟨made, same, fun _ _ => ⟨earlier, policy, later, compiled, commits⟩⟩
    · obtain ⟨n, journal, reached, _⟩ := application.exists_iterate_eq_apply world
      exact ⟨n, journal, reached⟩
    · rw [bare_apply]
      simp only [Application.outcome, recorded]

/-- The tunnel gets another address while the kill switch is on. -/
theorem routeCalls_after_move :
    let settings : Settings := { enableKillSwitch := true }
    let resolver := ({} : LookupTable).resolver
    let manager := (RouteManager.none : RouteManager Unit).recording
    let started : World Memory SessionId (Unit × List RouteCall) := ⟨{}, {}, (), []⟩
    let on := (started.apply Memory.engine manager resolver settings
      (some (.ofOctets 10 8 0 2))).2
    let moved := (on.apply Memory.engine manager resolver settings (some (.ofOctets 10 8 0 6))).2
    moved.killSwitch.isEnabled = true ∧
      moved.routeCalls = [.add (.ofOctets 10 8 0 2), .remove (.ofOctets 10 8 0 2),
        .add (.ofOctets 10 8 0 6)] := by
  intro settings resolver manager started on moved
  have routed : Routed _ moved :=
    .apply Memory.engine .none resolver settings (some (.ofOctets 10 8 0 6))
      (.apply Memory.engine .none resolver settings (some (.ofOctets 10 8 0 2))
        (.start {} started.engine ()))
  obtain ⟨⟨gone, outstanding, _, remembered, inForce⟩, _⟩ :=
    @routeCalls_paired Memory SessionId Unit Unit _ moved routed
  have leads : moved.killSwitch.vpnAddress = some (.ofOctets 10 8 0 6) := by
    decide +kernel
  refine ⟨(inForce (.ofOctets 10 8 0 6) (remembered.symm.trans leads)).1, ?_⟩
  decide +kernel

end World

end TrafficPolicy
