import TrafficPolicy.Builder
import TrafficPolicy.Engine

/-!
# Installation

`Policy.install` registers the filters of a policy in one transaction of one session, under a
namespace made for it. If a call fails, the transaction is aborted, the session closed, and the
error of that call is the outcome. An `Installed` policy stays in force until it is torn down.
`Builder.build` compiles a policy and installs it.
-/

namespace TrafficPolicy

/-- How a session and what it registers are called. -/
structure InstallOptions where
  sessionName : String := "hfence"
  sessionDescription : String := "hfence dynamic session"
  providerName : String := "hfence provider"
  sublayerName : String := "hfence filters"
  deriving DecidableEq, Repr

/-- A policy in an engine: its session while it is in force, its namespace and its filters. -/
structure Installed (ι : Type) where
  session : Option ι
  ns : Namespace
  ids : List FilterId
  deriving DecidableEq, Repr

namespace Installed

/-- Whether the policy is still in force, as far as its owner knows. -/
def isActive {ι : Type} (installed : Installed ι) : Bool :=
  installed.session.isSome

/-- How an installed policy is shown, with these texts for the keys of its namespace. -/
def summary {ι : Type} (installed : Installed ι) (provider sublayer : String) : String :=
  let keys := s!"provider: ProviderKey({provider}), sublayer: SublayerKey({sublayer})"
  let counts := s!"filters: {installed.ids.length}, active: {installed.isActive}"
  s!"InstalledPolicy \x7b namespace: Namespace \x7b {keys} \x7d, {counts} \x7d"

end Installed

namespace Engine

variable {σ ι : Type}

/-- A call on a session whose refusal is an error of the installation. -/
def request (engine : Engine σ ι) (session : ι) (call : Call) :
    ExceptT PolicyError (StateM σ) call.Reply :=
  fun state =>
    let (answer, state) := engine.call session call state
    (answer.mapError (.install call.name), state)

/-- Adds filters one after the other, and gives their numbers. -/
def addFilters (engine : Engine σ ι) (session : ι) (ns : Namespace) :
    List Filter → ExceptT PolicyError (StateM σ) (List FilterId)
  | [] => return []
  | filter :: rest => do
    let id ← engine.request session (.addFilter ns filter)
    let ids ← engine.addFilters session ns rest
    return id :: ids

/-- Registers a namespace and filters under it, and commits. -/
def populate (engine : Engine σ ι) (session : ι) (options : InstallOptions)
    (filters : List Filter) :
    ExceptT PolicyError (StateM σ) (Namespace × List FilterId) := do
  let description := options.sessionDescription
  let provider ← engine.request session (.addProvider options.providerName description)
  let sublayer ← engine.request session (.addSublayer provider options.sublayerName description)
  let ns : Namespace := ⟨provider, sublayer⟩
  let ids ← engine.addFilters session ns filters
  engine.request session .commit
  return (ns, ids)

/-- Closes a session and lets it go, whatever the engine answers. -/
def release (engine : Engine σ ι) (session : ι) (state : σ) : σ :=
  engine.drop session (engine.call session .close state).2

end Engine

/-- Installs a policy. -/
def Policy.install {σ ι : Type} (engine : Engine σ ι) (options : InstallOptions)
    (policy : Policy) (state : σ) : Except PolicyError (Installed ι) × σ :=
  match engine.openSession options.sessionName options.sessionDescription state with
  | (.error error, state) => (.error (.install openSessionName error), state)
  | (.ok session, state) =>
    match engine.request session .begin state with
    | (.error error, state) => (.error error, engine.release session state)
    | (.ok _, state) =>
      match engine.populate session options policy.filters state with
      | (.ok (ns, ids), state) => (.ok ⟨some session, ns, ids⟩, state)
      | (.error error, state) =>
        (.error error, engine.release session (engine.call session .abort state).2)

namespace Builder

variable {σ ι : Type}

/-- Compiles a policy and installs it, under the names of the options. -/
def buildWith (builder : Builder) (engine : Engine σ ι) (resolver : Resolver)
    (options : InstallOptions) (state : σ) : Looked (Installed ι) × σ :=
  let compiled := builder.compile resolver
  match compiled.result with
  | .error error => (⟨compiled.lookups, .error error⟩, state)
  | .ok policy =>
    let (result, state) := policy.install engine options state
    (⟨compiled.lookups, result⟩, state)

/-- Compiles a policy and installs it. -/
def build (builder : Builder) (engine : Engine σ ι) (resolver : Resolver) (state : σ) :
    Looked (Installed ι) × σ :=
  builder.buildWith engine resolver {} state

end Builder

namespace Installed

variable {σ ι : Type}

/-- Takes a policy out of force. Once its session is gone, nothing more happens. -/
def teardown (engine : Engine σ ι) (installed : Installed ι) (state : σ) :
    Except PolicyError Unit × Installed ι × σ :=
  match installed.session with
  | none => (.ok (), installed, state)
  | some session =>
    let (answer, state) := engine.call session .close state
    (answer.mapError (.install "close_session"), { installed with session := none },
      engine.drop session state)

/-- Lets a policy go, which tears it down. -/
def drop (engine : Engine σ ι) (installed : Installed ι) (state : σ) : σ :=
  (installed.teardown engine state).2.2

end Installed

end TrafficPolicy
