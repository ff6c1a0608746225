import TrafficPolicy.Error
import TrafficPolicy.Filter
import TrafficPolicy.Namespace

/-!
# Classification engines

An `Engine` offers sessions in which providers, sublayers and filters are registered. It is given
by functions on a type of states `σ`, with handles of type `ι` for its sessions; a session that
goes out of use is dropped. The calls on a session are data (`Call`), so that runs of an engine
can be spoken about.
-/

namespace TrafficPolicy

/-- The number that an engine gives a filter. -/
abbrev FilterId := Nat

/-- A call on a session. -/
inductive Call where
  | begin
  | commit
  | abort
  | addProvider (name description : String)
  | addSublayer (provider : Key) (name description : String)
  | addFilter (ns : Namespace) (filter : Filter)
  | close
  deriving DecidableEq, Repr

namespace Call

/-- What a call gives back when it succeeds. -/
abbrev Reply : Call → Type
  | addProvider .. | addSublayer .. => Key
  | addFilter .. => FilterId
  | begin | commit | abort | close => Unit

/-- The name of a call. -/
def name : Call → String
  | begin => "begin_transaction"
  | commit => "commit_transaction"
  | abort => "abort_transaction"
  | addProvider .. => "add_provider"
  | addSublayer .. => "add_sublayer"
  | addFilter .. => "add_filter"
  | close => "close"

end Call

/-- The name of the call that opens a session. -/
def openSessionName : String := "open_session"

/-- An engine over states `σ` with session handles `ι`. -/
structure Engine (σ ι : Type) where
  /-- Opens a session with a name and a description. -/
  openSession : String → String → σ → Except EngineError ι × σ
  /-- Makes a call on a session. -/
  call : ι → (call : Call) → σ → Except EngineError call.Reply × σ
  /-- Lets a session go. -/
  drop : ι → σ → σ

end TrafficPolicy
