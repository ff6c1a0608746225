import TrafficPolicy.Engine
import TrafficPolicy.Packet

/-!
# The engine in memory

`Memory` is the state of an engine that keeps its tables in memory, and `Memory.engine` its calls.
While a transaction is open in a session, the writes of that session are staged; they are applied
in one step when it commits and forgotten when it aborts. When a session ends, everything that
hangs under its providers goes with it. `Memory.classify` gives the verdict on a packet: among the
filters that apply the one of the greatest weight decides, and among those the one added last.

Commits and the addition of filters can be made to fail, to see what the callers of an engine do
then.
-/

namespace TrafficPolicy

/-- The number of a session. -/
abbrev SessionId := Nat

/-- A filter in the engine. Its identifier is drawn when the filter is added, also while it is only
staged, together with its place in the order of additions, so the one number stands for both. -/
structure Stored where
  id : FilterId
  ns : Namespace
  filter : Filter
  deriving DecidableEq, Repr

/-- A change of the engine's tables. -/
inductive Write where
  | provider (key : Key)
  | sublayer (key provider : Key)
  | filter (stored : Stored)
  deriving DecidableEq, Repr

/-- An open session, with the writes of its transaction if one is open. -/
structure Session where
  id : SessionId
  staged : Option (List Write) := none
  deriving DecidableEq, Repr

/-- The tables and counters of an engine in memory. -/
structure Memory where
  /-- The calls made on open sessions, and the sessions opened. -/
  calls : Nat := 0
  /-- The number of the session opened last. -/
  lastSession : SessionId := 0
  /-- The number of the filter added last: its identifier and its place in the order of additions,
  which are never drawn apart and so are counted once. -/
  lastFilter : FilterId := 0
  /-- How many keys have been drawn. -/
  keysDrawn : Nat := 0
  /-- How often a filter was to be added. -/
  addFilterCalls : Nat := 0
  /-- Which addition of a filter is to fail. -/
  failAddFilterAt : Option Nat := none
  /-- Whether commits fail. -/
  failCommit : Bool := false
  /-- The providers, with the sessions that own them. -/
  providers : List (Key × SessionId) := []
  /-- The sublayers, with their providers. -/
  sublayers : List (Key × Key) := []
  /-- The filters in force, in the order of their numbers. -/
  filters : List Stored := []
  /-- The open sessions. -/
  sessions : List Session := []
  deriving DecidableEq, Repr

/-! ## Refusals -/

namespace EngineError

/-- The provider is not registered. -/
def providerNotFound : EngineError := ⟨0x80320005, "provider not found"⟩

/-- The sublayer is not registered under the provider. -/
def sublayerNotFound : EngineError := ⟨0x80320007, "sublayer not found"⟩

/-- The session has a transaction open. -/
def transactionInProgress : EngineError := ⟨0x8032000B, "transaction already in progress"⟩

/-- The session has no transaction open. -/
def noTransaction : EngineError := ⟨0x8032000D, "no transaction in progress"⟩

/-- The session is not open. -/
def sessionClosed : EngineError := ⟨0x80320017, "session is closed"⟩

/-- The addition of a filter was made to fail. -/
def injectedAddFilter : EngineError := ⟨0x803200FF, "injected add-filter failure"⟩

/-- The commit was made to fail. -/
def injectedCommit : EngineError := ⟨0x803200FF, "injected commit failure"⟩

end EngineError

/-! ## Verdicts -/

namespace Stored

/-- Whether a filter prevails over another one: by weight, then by number. -/
def outranks (stored other : Stored) : Bool :=
  other.filter.weight < stored.filter.weight ||
    (other.filter.weight = stored.filter.weight && other.id < stored.id)

/-- The filter that prevails over all others of a list. -/
def strongest? : List Stored → Option Stored
  | [] => none
  | stored :: rest =>
    match strongest? rest with
    | none => some stored
    | some best => some (if stored.outranks best then stored else best)

/-- Puts a filter among filters in the order of their numbers, in the place of one that has its
number. -/
def insert (stored : Stored) : List Stored → List Stored
  | [] => [stored]
  | other :: rest =>
    if stored.id < other.id then stored :: other :: rest
    else if stored.id = other.id then stored :: rest
    else other :: insert stored rest

end Stored

namespace Memory

/-- The filter that decides a packet. -/
def decisive? (memory : Memory) (packet : Packet) : Option Stored :=
  Stored.strongest? (memory.filters.filter (·.filter.applies packet))

/-- The verdict on a packet, if any filter applies to it. -/
def classify (memory : Memory) (packet : Packet) : Option Action :=
  (memory.decisive? packet).map (·.filter.action)

/-- The filters of a namespace, in the order of their numbers. -/
def filtersIn (memory : Memory) (ns : Namespace) : List Stored :=
  memory.filters.filter (·.ns = ns)

/-! ## Sessions and writes -/

/-- An open session. -/
def session? (memory : Memory) (id : SessionId) : Option Session :=
  memory.sessions.find? (·.id = id)

/-- Changes the transaction of a session. -/
def setStaged (memory : Memory) (id : SessionId) (staged : Option (List Write)) : Memory :=
  { memory with
    sessions := memory.sessions.map fun session =>
      if session.id = id then { session with staged } else session }

/-- Changes the tables. Providers belong to the session `owner`. -/
def apply (owner : SessionId) (memory : Memory) : Write → Memory
  | .provider key =>
    { memory with providers := (key, owner) :: memory.providers.filter (·.1 ≠ key) }
  | .sublayer key provider =>
    { memory with sublayers := (key, provider) :: memory.sublayers.filter (·.1 ≠ key) }
  | .filter stored => { memory with filters := stored.insert memory.filters }

/-- Stages a write if the session has a transaction open, and applies it if not. -/
def write (memory : Memory) (session : Session) (write : Write) : Memory :=
  match session.staged with
  | some staged => memory.setStaged session.id (some (staged ++ [write]))
  | none => memory.apply session.id write

/-- Whether a session may put sublayers under a provider: it is registered, or staged there. -/
def providerKnown (memory : Memory) (session : Session) (key : Key) : Bool :=
  memory.providers.any (·.1 = key) || (session.staged.getD []).contains (.provider key)

/-- Whether a session may put filters under a namespace: it is registered, or staged there. -/
def sublayerKnown (memory : Memory) (session : Session) (ns : Namespace) : Bool :=
  memory.sublayers.contains (ns.sublayer, ns.provider) ||
    (session.staged.getD []).contains (.sublayer ns.sublayer ns.provider)

/-- Ends a session, and removes its providers and all that hangs under them. -/
def purge (memory : Memory) (id : SessionId) : Memory :=
  let gone (key : Key) := memory.providers.any fun entry => entry.1 = key && entry.2 = id
  { memory with
    sessions := memory.sessions.filter (·.id ≠ id)
    providers := memory.providers.filter (!gone ·.1)
    sublayers := memory.sublayers.filter (!gone ·.2)
    filters := memory.filters.filter (!gone ·.ns.provider) }

/-! ## Calls -/

/-- Opens a session. -/
def openSession (memory : Memory) : Except EngineError SessionId × Memory :=
  let id := memory.lastSession + 1
  (.ok id,
    { memory with
      calls := memory.calls + 1
      lastSession := id
      sessions := memory.sessions ++ [⟨id, none⟩] })

/-- Adds a filter under a namespace. -/
def addFilter (memory : Memory) (session : Session) (ns : Namespace) (filter : Filter) :
    Except EngineError FilterId × Memory :=
  let memory := { memory with addFilterCalls := memory.addFilterCalls + 1 }
  if memory.failAddFilterAt = some memory.addFilterCalls then (.error .injectedAddFilter, memory)
  else if !memory.sublayerKnown session ns then (.error .sublayerNotFound, memory)
  else
    let id := memory.lastFilter + 1
    (.ok id, { memory with lastFilter := id }.write session (.filter ⟨id, ns, filter⟩))

/-- Draws a key and registers something under it. -/
def addKey (memory : Memory) (session : Session) (register : Key → Write) :
    Except EngineError Key × Memory :=
  let key := Key.draw memory.keysDrawn
  (.ok key, { memory with keysDrawn := memory.keysDrawn + 1 }.write session (register key))

/-- Makes a call on an open session. -/
def perform (memory : Memory) (session : Session) :
    (call : Call) → Except EngineError call.Reply × Memory
  | .begin =>
    match session.staged with
    | some _ => (.error .transactionInProgress, memory)
    | none => (.ok (), memory.setStaged session.id (some []))
  | .commit =>
    match session.staged with
    | none => (.error .noTransaction, memory)
    | some staged =>
      let memory := memory.setStaged session.id none
      if memory.failCommit then (.error .injectedCommit, memory)
      else (.ok (), staged.foldl (apply session.id) memory)
  | .abort =>
    match session.staged with
    | none => (.error .noTransaction, memory)
    | some _ => (.ok (), memory.setStaged session.id none)
  | .addProvider _ _ => memory.addKey session .provider
  | .addSublayer provider _ _ =>
    if memory.providerKnown session provider then memory.addKey session (.sublayer · provider)
    else (.error .providerNotFound, memory)
  | .addFilter ns filter => memory.addFilter session ns filter
  | .close => (.ok (), memory.purge session.id)

/-- The answer to a call on a session that is not open: closing it once more does no harm. -/
def answerClosed : (call : Call) → Except EngineError call.Reply
  | .close => .ok ()
  | .begin | .commit | .abort | .addProvider .. | .addSublayer .. | .addFilter .. =>
    .error .sessionClosed

/-- Makes a call on a session. -/
def call (id : SessionId) (call : Call) (memory : Memory) :
    Except EngineError call.Reply × Memory :=
  match memory.session? id with
  | none => (answerClosed call, memory)
  | some session => { memory with calls := memory.calls + 1 }.perform session call

/-- The calls of an engine in memory. A session that is dropped is closed. -/
def engine : Engine Memory SessionId where
  openSession _ _ := openSession
  call := call
  drop id memory := (call id .close memory).2

/-- The engine with its `k`-th addition of a filter set to fail. -/
def failingAddFilter (memory : Memory) (k : Nat) : Memory :=
  { memory with failAddFilterAt := some k }

/-- The engine with all commits set to fail. -/
def failingCommits (memory : Memory) : Memory :=
  { memory with failCommit := true }

end Memory

end TrafficPolicy
