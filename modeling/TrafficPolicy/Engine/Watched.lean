import TrafficPolicy.Engine

/-!
# Watched engines

`Engine.watched` puts a layer around an engine that notes the calls made on it and refuses some: a
`Fault` waits for the calls of one name and refuses one of them, which then does not reach the
engine inside. Sessions that are dropped are dropped inside, unnoted.
-/

namespace TrafficPolicy

/-- A call as it reached an engine. -/
inductive Event (ι : Type) where
  | openSession (name description : String)
  | call (session : ι) (call : Call)
  deriving DecidableEq, Repr

/-- The name of the call that an event is. -/
def Event.name {ι : Type} : Event ι → String
  | openSession .. => openSessionName
  | call _ request => request.name

/-- A refusal that waits for the calls of one name: the `countdown`-th of them is refused. -/
structure Fault where
  call : String
  countdown : Nat
  error : EngineError
  deriving DecidableEq, Repr

namespace Fault

/-- The refusal of the next call of a name, if one is due. -/
def due? (name : String) (faults : List Fault) : Option EngineError :=
  (faults.find? fun fault => fault.call = name && fault.countdown = 1).map (·.error)

/-- What is left of the faults after a call of a name. -/
def afterCall (name : String) (faults : List Fault) : List Fault :=
  faults.filterMap fun fault =>
    if fault.call ≠ name then some fault
    else if fault.countdown = 1 then none
    else some { fault with countdown := fault.countdown - 1 }

end Fault

/-- The state of a watched engine. -/
structure Watched (σ ι : Type) where
  inner : σ
  trace : List (Event ι) := []
  faults : List Fault := []

namespace Watched

/-- Notes an event, and counts the faults down. -/
def note {σ ι : Type} (watched : Watched σ ι) (event : Event ι) : Watched σ ι :=
  { watched with
    trace := watched.trace ++ [event]
    faults := Fault.afterCall event.name watched.faults }

/-- Notes an event, and passes the call on unless a fault is due. -/
def pass {σ ι α : Type} (watched : Watched σ ι) (event : Event ι)
    (inside : σ → Except EngineError α × σ) : Except EngineError α × Watched σ ι :=
  match Fault.due? event.name watched.faults with
  | some error => (.error error, watched.note event)
  | none =>
    let (answer, inner) := inside watched.inner
    (answer, { watched.note event with inner })

/-- Adds a fault after those that wait already. -/
def addFault {σ ι : Type} (watched : Watched σ ι) (fault : Fault) : Watched σ ι :=
  { watched with faults := watched.faults ++ [fault] }

end Watched

/-- An engine inside a layer that notes and refuses calls. -/
def Engine.watched {σ ι : Type} (engine : Engine σ ι) : Engine (Watched σ ι) ι where
  openSession name description watched :=
    watched.pass (.openSession name description) (engine.openSession name description)
  call session call watched := watched.pass (.call session call) (engine.call session call)
  drop session watched := { watched with inner := engine.drop session watched.inner }

end TrafficPolicy
