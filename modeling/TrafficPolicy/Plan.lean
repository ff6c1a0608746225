import TrafficPolicy.Config
import TrafficPolicy.Engine.Memory
import TrafficPolicy.Json
import TrafficPolicy.System

/-!
# Dry runs

`Plan.ofFile` compiles the policy of a settings file and installs it in an engine in memory, to
see that it can be done. `Plan.run` is the whole of the command: what it prints, and the status it
ends with.
-/

namespace TrafficPolicy

/-- A policy that was compiled and installed for a try. -/
structure Plan where
  policy : Policy
  installed : Installed SessionId
  engine : Memory

namespace Plan

/-- Compiles the policy of a settings file and installs it. -/
def ofConfig (resolver : Resolver) (config : Config) : Except PolicyError Plan := do
  let policy ← (config.settings.builder.compile resolver).result
  let (result, engine) := policy.install Memory.engine config.session.installOptions {}
  return ⟨policy, ← result, engine⟩

/-- Reads a settings file. -/
def load (system : System) (path : Path) : Except PolicyError Config :=
  match system.readText path with
  | .error error => .error (.config (.unreadable path error))
  | .ok text => Config.parse text

/-- The plan of the settings file at a path. -/
def ofFile (system : System) (path : Path) : Except PolicyError Plan := do
  ofConfig system.resolver (← load system path)

/-- What a command prints, and the status it ends with. -/
structure Outcome where
  status : Nat
  output : Option Json := none
  complaint : Option String := none

/-- The command that shows the plan of the settings file given first. -/
def run (system : System) (arguments : List String) : Outcome :=
  match arguments with
  | [] => { status := 2, complaint := some "usage: hfence-plan <settings.yaml>" }
  | path :: _ =>
    match ofFile system (Path.ofString path) with
    | .ok plan => { status := 0, output := some plan.policy.json }
    | .error error => { status := 1, complaint := some s!"hfence-plan: {error.message}" }

end Plan

end TrafficPolicy
