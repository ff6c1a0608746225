import TrafficPolicy.Install
import TrafficPolicy.Settings

/-!
# Kill switches

A `KillSwitch` keeps at most one policy in force. New settings are compiled while the old policy
is still there; then the old policy is torn down and the new one installed. The split routes to
the tunnel follow the policy as far as the `RouteManager` manages: its failures change nothing. A
`World` is a kill switch with the engine and the routes it works on.
-/

namespace TrafficPolicy

/-- Split routes over states `ρ`. Adding and removing may fail, in the words of the system. -/
structure RouteManager (ρ : Type) where
  add : Address → ρ → Except String Unit × ρ
  remove : Address → ρ → Except String Unit × ρ

/-- The manager of no routes. -/
def RouteManager.none {ρ : Type} : RouteManager ρ where
  add _ routes := (.ok (), routes)
  remove _ routes := (.ok (), routes)

/-- What a kill switch remembers. -/
structure KillSwitch (ι : Type) where
  options : InstallOptions := {}
  /-- The policy in force. -/
  active : Option (Installed ι) := none
  /-- The settings that the policy stands for. -/
  settings : Option Settings := none
  /-- The address of the tunnel that routes lead to. -/
  vpnAddress : Option Address := none
  deriving DecidableEq, Repr

namespace KillSwitch

variable {ι : Type}

/-- Whether a policy is in force. -/
def isEnabled (killSwitch : KillSwitch ι) : Bool :=
  killSwitch.active.any (·.isActive)

/-- Whether settings and address are those that the kill switch has already. -/
def remembers (killSwitch : KillSwitch ι) (settings : Settings) (vpnAddress : Option Address) :
    Bool :=
  killSwitch.settings.any (·.same settings) && killSwitch.vpnAddress = vpnAddress

end KillSwitch

/-- A kill switch, with the engine and the routes it works on. -/
structure World (σ ι ρ : Type) where
  killSwitch : KillSwitch ι
  engine : σ
  routes : ρ

namespace World

variable {σ ι ρ : Type}

/-- Makes the split routes lead to another address, or to none. -/
def moveRoutes (manager : RouteManager ρ) (target : Option Address) (world : World σ ι ρ) :
    World σ ι ρ :=
  if world.killSwitch.vpnAddress = target then world
  else
    let routes := match world.killSwitch.vpnAddress with
      | some old => (manager.remove old world.routes).2
      | none => world.routes
    let routes := match target with
      | some new => (manager.add new routes).2
      | none => routes
    { world with killSwitch := { world.killSwitch with vpnAddress := target }, routes }

/-- Takes the policy out of force, and forgets the settings. -/
def teardown (engine : Engine σ ι) (world : World σ ι ρ) : Except PolicyError Unit × World σ ι ρ :=
  let killSwitch := { world.killSwitch with active := none, settings := none }
  match world.killSwitch.active with
  | none => (.ok (), { world with killSwitch })
  | some installed =>
    let (result, _, state) := installed.teardown engine world.engine
    (result, { world with killSwitch, engine := state })

/-- Tears the old policy down and installs a new one. -/
def swap (engine : Engine σ ι) (policy : Policy) (world : World σ ι ρ) :
    Except PolicyError (Installed ι) × World σ ι ρ :=
  match world.teardown engine with
  | (.error error, world) => (.error error, world)
  | (.ok _, world) =>
    let (result, state) := policy.install engine world.killSwitch.options world.engine
    (result, { world with engine := state })

/-- Puts new settings into force. If they cannot be compiled, all stays as it is; if the engine
fails, nothing is left in force. -/
def apply (engine : Engine σ ι) (manager : RouteManager ρ) (resolver : Resolver)
    (settings : Settings) (vpnAddress : Option Address) (world : World σ ι ρ) :
    Looked Unit × World σ ι ρ :=
  if world.killSwitch.isEnabled && world.killSwitch.remembers settings vpnAddress then
    (.ofExcept (.ok ()), world)
  else if !settings.enableKillSwitch then
    let (result, world) := (world.moveRoutes manager none).teardown engine
    (.ofExcept result, world)
  else
    let compiled := settings.builder.compile resolver
    match compiled.result with
    | .error error => (⟨compiled.lookups, .error error⟩, world)
    | .ok policy =>
      match world.swap engine policy with
      | (.error error, world) => (⟨compiled.lookups, .error error⟩, world.moveRoutes manager none)
      | (.ok installed, world) =>
        let killSwitch :=
          { world.killSwitch with active := some installed, settings := some settings }
        (⟨compiled.lookups, .ok ()⟩, { world with killSwitch }.moveRoutes manager vpnAddress)

/-- Takes the routes back and the policy out of force. -/
def stop (engine : Engine σ ι) (manager : RouteManager ρ) (world : World σ ι ρ) :
    Except PolicyError Unit × World σ ι ρ :=
  (world.moveRoutes manager none).teardown engine

/-- Lets the kill switch go: its policy is torn down, the routes stay as they are. -/
def dropSwitch (engine : Engine σ ι) (world : World σ ι ρ) : World σ ι ρ :=
  (world.teardown engine).2

end World

end TrafficPolicy
