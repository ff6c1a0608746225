import Mathlib.Data.Prod.Basic
import Mathlib.Logic.Equiv.Basic
import Mathlib.Order.Monotone.Basic
import TrafficPolicy.Proofs.Engine.Effects
import TrafficPolicy.Proofs.Engine.History

/-!
# Other names

An engine in memory does not care which keys and numbers it gives out.  A `Renaming` takes keys to
other keys one to one, and numbers of filters to others in the same order.  Two engines are `Like`
each other under a renaming if it takes the tables and the sessions of the one to those of the
other; they may have counted and drawn different things.

Like engines give like answers to moves and stay alike (`Like.after`), as long as the keys and
numbers that they give out then fit the renaming too.
-/

namespace TrafficPolicy

/-- What a move gives back when it succeeds. -/
inductive Given where
  | session (id : SessionId)
  | key (key : Key)
  | number (id : FilterId)
  | done
  deriving DecidableEq, Repr

/-- What a call gives back, whatever call it is. -/
def Call.given : (call : Call) → call.Reply → Given
  | addProvider .., key | addSublayer .., key => .key key
  | addFilter .., id => .number id
  | begin, _ | commit, _ | abort, _ | close, _ => .done

/-- A result of a call, whatever call it is. -/
def Call.outcome (call : Call) (result : Except EngineError call.Reply × Memory) :
    Except EngineError Given × Memory :=
  (result.1.map call.given, result.2)

/-- What an engine answers to a move, and what becomes of it. -/
def Memory.step (memory : Memory) : Move → Except EngineError Given × Memory
  | .openSession => (memory.openSession.1.map .session, memory.openSession.2)
  | .call id call => call.outcome (Memory.call id call memory)
  | .drop id => (.ok .done, Memory.engine.drop id memory)
  | .rearm failAddFilterAt failCommit =>
    (.ok .done, { memory with failAddFilterAt, failCommit })

theorem History.memory_after (history : History) (move : Move) :
    (history.after move).memory = (history.memory.step move).2 := by
  cases move <;> rfl

/-- Whether a move asks for the failure of an addition of a filter. -/
def Move.arms : Move → Bool
  | rearm failAddFilterAt _ => failAddFilterAt.isSome
  | openSession | call .. | drop _ => false

/-- A namespace with other names. -/
def Namespace.rename (key : Key → Key) (ns : Namespace) : Namespace :=
  ⟨key ns.provider, key ns.sublayer⟩

/-- A call that says other names. -/
def Call.rename (key : Key → Key) : Call → Call
  | addSublayer provider name description => addSublayer (key provider) name description
  | addFilter ns filter => addFilter (ns.rename key) filter
  | other => other

/-- A move that says other names. -/
def Move.rename (key : Key → Key) : Move → Move
  | call id request => call id (request.rename key)
  | other => other

/-- Names that are changed back are as before. -/
theorem Move.rename_symm (key : Equiv.Perm Key) (move : Move) :
    (move.rename key.symm).rename key = move := by
  cases move with
  | call id request => cases request <;> simp [rename, Call.rename, Namespace.rename]
  | _ => rfl

theorem Move.arms_rename (key : Key → Key) (move : Move) :
    (move.rename key).arms = move.arms := by
  cases move <;> rfl

/-- Other names for keys, and other numbers for filters in the same order. -/
structure Renaming where
  key : Equiv.Perm Key
  number : FilterId → FilterId
  strictMono : StrictMono number

namespace Renaming

section Renamed

variable (r : Renaming)

/-- A filter in the engine with other names. -/
def stored (stored : Stored) : Stored :=
  ⟨r.number stored.id, stored.ns.rename r.key, stored.filter⟩

/-- A write with other names. -/
def write : Write → Write
  | .provider key => .provider (r.key key)
  | .sublayer key provider => .sublayer (r.key key) (r.key provider)
  | .filter stored => .filter (r.stored stored)

/-- A session whose writes have other names. -/
def session (session : Session) : Session :=
  ⟨session.id, session.staged.map (·.map r.write)⟩

/-- An answer with other names. -/
def given : Given → Given
  | .key key => .key (r.key key)
  | .number id => .number (r.number id)
  | other => other

end Renamed

variable {r : Renaming}

theorem ns_injective : Function.Injective (Namespace.rename r.key) := by
  rintro ⟨provider, sublayer⟩ ⟨provider', sublayer'⟩ same
  simp only [Namespace.rename, Namespace.mk.injEq, r.key.injective.eq_iff] at same
  rw [same.1, same.2]

theorem stored_injective : Function.Injective r.stored := by
  rintro ⟨id, ns, filter⟩ ⟨id', ns', filter'⟩ same
  simp only [stored, Stored.mk.injEq, r.strictMono.injective.eq_iff, ns_injective.eq_iff] at same
  rw [same.1, same.2.1, same.2.2]

theorem write_injective : Function.Injective r.write := by
  intro write other same
  cases write <;> cases other <;>
    simp only [Renaming.write, Write.provider.injEq, Write.sublayer.injEq, Write.filter.injEq,
      r.key.injective.eq_iff, stored_injective.eq_iff, reduceCtorEq] at same
  · rw [same]
  · rw [same.1, same.2]
  · rw [same]

theorem contains_map {α : Type} [BEq α] [LawfulBEq α] {f : α → α}
    (injective : Function.Injective f) (list : List α) (item : α) :
    (list.map f).contains (f item) = list.contains item := by
  rw [Bool.eq_iff_iff, List.contains_iff_mem, List.contains_iff_mem,
    List.mem_map_of_injective injective]

theorem filter_map {α : Type} {f : α → α} {p q : α → Bool} {list : List α}
    (same : ∀ item, p (f item) = q item) : (list.map f).filter p = (list.filter q).map f := by
  rw [List.filter_map, show p ∘ f = q from funext same]

/-- What waits in a session waits there under its other name. -/
theorem contains_session (session : Session) (write : Write) :
    ((r.session session).staged.getD []).contains (r.write write) =
      (session.staged.getD []).contains write := by
  have staged : (r.session session).staged.getD [] = (session.staged.getD []).map r.write := by
    rw [Renaming.session]
    cases session.staged <;> rfl
  rw [staged, contains_map write_injective]

/-! ## Filters with other numbers -/

theorem outranks_stored (stored other : Stored) :
    (r.stored stored).outranks (r.stored other) = stored.outranks other := by
  have lower : decide (r.number other.id < r.number stored.id) = decide (other.id < stored.id) :=
    decide_eq_decide.mpr r.strictMono.lt_iff_lt
  rw [Stored.outranks, Stored.outranks, ← lower]
  rfl

theorem strongest?_map (list : List Stored) :
    Stored.strongest? (list.map r.stored) = (Stored.strongest? list).map r.stored := by
  induction list with
  | nil => rfl
  | cons first rest ih =>
    rw [List.map_cons, Stored.strongest?, ih, Stored.strongest?]
    cases Stored.strongest? rest with
    | none => rfl
    | some best =>
      simp only [Option.map_some, outranks_stored]
      split <;> rfl

theorem insert_map (stored : Stored) (list : List Stored) :
    (r.stored stored).insert (list.map r.stored) = (stored.insert list).map r.stored := by
  induction list with
  | nil => rfl
  | cons other rest ih =>
    simp only [List.map_cons, Stored.insert, ih]
    simp only [Renaming.stored, r.strictMono.lt_iff_lt, r.strictMono.injective.eq_iff]
    split
    · rfl
    · split <;> rfl

end Renaming

namespace Memory

/-- The one engine has the tables and the sessions of the other one under other names. -/
structure Like (r : Renaming) (memory other : Memory) : Prop where
  lastSession : memory.lastSession = other.lastSession
  failCommit : memory.failCommit = other.failCommit
  unarmed : memory.failAddFilterAt = none ∧ other.failAddFilterAt = none
  providers : memory.providers = other.providers.map fun entry => (r.key entry.1, entry.2)
  sublayers : memory.sublayers = other.sublayers.map fun entry => (r.key entry.1, r.key entry.2)
  filters : memory.filters = other.filters.map r.stored
  sessions : memory.sessions = other.sessions.map r.session

namespace Like

variable {r : Renaming} {memory other : Memory}

/-- Like engines decide alike. -/
theorem classify (like : Like r memory other) (packet : Packet) :
    memory.classify packet = other.classify packet := by
  have applies : (fun stored : Stored => stored.filter.applies packet) ∘ r.stored =
      fun stored => stored.filter.applies packet := rfl
  rw [Memory.classify, Memory.classify, decisive?, decisive?, like.filters, List.filter_map,
    applies, Renaming.strongest?_map, Option.map_map]
  rfl

theorem session? (like : Like r memory other) (id : SessionId) :
    memory.session? id = (other.session? id).map r.session := by
  rw [Memory.session?, like.sessions, List.find?_map]
  rfl

theorem providerKnown (like : Like r memory other) (session : Session) (key : Key) :
    memory.providerKnown (r.session session) (r.key key) = other.providerKnown session key := by
  have staged := Renaming.contains_session (r := r) session (.provider key)
  rw [Renaming.write] at staged
  rw [Memory.providerKnown, Memory.providerKnown, staged, like.providers, List.any_map]
  simp only [Function.comp_def, r.key.injective.eq_iff]

theorem sublayerKnown (like : Like r memory other) (session : Session) (ns : Namespace) :
    memory.sublayerKnown (r.session session) (ns.rename r.key) =
      other.sublayerKnown session ns := by
  have staged := Renaming.contains_session (r := r) session (.sublayer ns.sublayer ns.provider)
  rw [Renaming.write] at staged
  have both : Function.Injective fun entry : Key × Key => (r.key entry.1, r.key entry.2) :=
    Function.Injective.prodMap r.key.injective r.key.injective
  have known := Renaming.contains_map both other.sublayers (ns.sublayer, ns.provider)
  rw [Memory.sublayerKnown, Memory.sublayerKnown, like.sublayers]
  exact congrArg₂ or known staged

/-- Like engines stay so, whatever they count. -/
theorem recount (like : Like r memory other)
    {calls additions keys numbers calls' additions' keys' numbers' : Nat} :
    Like r
      { memory with
        calls := calls, addFilterCalls := additions, keysDrawn := keys, lastFilter := numbers }
      { other with
        calls := calls', addFilterCalls := additions', keysDrawn := keys',
        lastFilter := numbers' } :=
  ⟨like.lastSession, like.failCommit, like.unarmed, like.providers, like.sublayers, like.filters,
    like.sessions⟩

theorem setStaged (like : Like r memory other) (id : SessionId) (staged : Option (List Write)) :
    Like r (memory.setStaged id (staged.map (·.map r.write))) (other.setStaged id staged) where
  lastSession := like.lastSession
  failCommit := like.failCommit
  unarmed := like.unarmed
  providers := like.providers
  sublayers := like.sublayers
  filters := like.filters
  sessions := by
    simp only [Memory.setStaged, like.sessions, List.map_map]
    refine List.map_congr_left fun session _ => ?_
    by_cases same : session.id = id <;> simp [Renaming.session, same]

theorem apply (like : Like r memory other) (owner : SessionId) (write : Write) :
    Like r (memory.apply owner (r.write write)) (other.apply owner write) := by
  cases write with
  | provider key =>
    refine { like with providers := ?_ }
    simp only [Renaming.write, Memory.apply, like.providers, List.filter_map, List.map_cons,
      Function.comp_def, ne_eq, r.key.injective.eq_iff]
  | sublayer key provider =>
    refine { like with sublayers := ?_ }
    simp only [Renaming.write, Memory.apply, like.sublayers, List.filter_map, List.map_cons,
      Function.comp_def, ne_eq, r.key.injective.eq_iff]
  | filter stored =>
    refine { like with filters := ?_ }
    simp only [Memory.apply, like.filters]
    exact Renaming.insert_map stored other.filters

theorem foldl_apply (like : Like r memory other) (owner : SessionId) (writes : List Write) :
    Like r ((writes.map r.write).foldl (Memory.apply owner) memory)
      (writes.foldl (Memory.apply owner) other) := by
  induction writes generalizing memory other with
  | nil => exact like
  | cons write rest ih => exact ih (like.apply owner write)

theorem write (like : Like r memory other) (session : Session) (write : Write) :
    Like r (memory.write (r.session session) (r.write write)) (other.write session write) := by
  cases staged : session.staged with
  | none =>
    simp only [Memory.write, Renaming.session, staged, Option.map_none]
    exact like.apply session.id write
  | some waiting =>
    simp only [Memory.write, Renaming.session, staged, Option.map_some]
    have staged := like.setStaged session.id (some (waiting ++ [write]))
    rwa [Option.map_some, List.map_append] at staged

theorem purge (like : Like r memory other) (id : SessionId) :
    Like r (memory.purge id) (other.purge id) := by
  have gone : ∀ key, (memory.providers.any fun entry => entry.1 = r.key key && entry.2 = id) =
      other.providers.any fun entry => entry.1 = key && entry.2 = id := fun key => by
    simp only [like.providers, List.any_map, Function.comp_def, r.key.injective.eq_iff]
  constructor
  · exact like.lastSession
  · exact like.failCommit
  · exact like.unarmed
  · exact (congrArg _ like.providers).trans
      (Renaming.filter_map fun entry => congrArg not (gone entry.1))
  · exact (congrArg _ like.sublayers).trans
      (Renaming.filter_map fun entry => congrArg not (gone entry.2))
  · exact (congrArg _ like.filters).trans
      (Renaming.filter_map fun stored => congrArg not (gone stored.ns.provider))
  · exact (congrArg _ like.sessions).trans (Renaming.filter_map fun _ => rfl)

end Like

@[simp]
theorem write_keysDrawn (memory : Memory) (session : Session) (write : Write) :
    (memory.write session write).keysDrawn = memory.keysDrawn := by
  rw [Memory.write]
  split
  · rfl
  · exact apply_keysDrawn ..

@[simp]
theorem write_lastFilter (memory : Memory) (session : Session) (write : Write) :
    (memory.write session write).lastFilter = memory.lastFilter := by
  rw [Memory.write]
  split
  · rfl
  · exact apply_lastFilter ..

/-! ## Like answers -/

/-- Two counters move on by one together, or stay together. -/
def Together (count next other follow : Nat) : Prop :=
  next = count ∧ follow = other ∨ next = count + 1 ∧ follow = other + 1

/-- If an engine gives out a key or a number on its way to `next`, it is the one under whose other
name the other engine gives out its next. -/
structure Fits (r : Renaming) (memory other next : Memory) : Prop where
  key : next.keysDrawn ≠ memory.keysDrawn →
    r.key (Key.draw other.keysDrawn) = Key.draw memory.keysDrawn
  number : next.lastFilter ≠ memory.lastFilter →
    r.number (other.lastFilter + 1) = memory.lastFilter + 1

/-- What the engines answer and what becomes of them is alike, and so is how far they have counted
since. -/
structure Reflects (r : Renaming) (memory other : Memory)
    (first second : Except EngineError Given × Memory) : Prop where
  like : Like r first.2 second.2
  answer : first.1 = second.1.map r.given
  keys : Together memory.keysDrawn first.2.keysDrawn other.keysDrawn second.2.keysDrawn
  numbers : Together memory.lastFilter first.2.lastFilter other.lastFilter second.2.lastFilter

section Steps

variable {r : Renaming} {memory other : Memory}

/-- Nothing is given out. -/
theorem Reflects.still {first second : Except EngineError Given × Memory}
    (like : Like r first.2 second.2) (answer : first.1 = second.1.map r.given)
    (keys : first.2.keysDrawn = memory.keysDrawn ∧ second.2.keysDrawn = other.keysDrawn)
    (numbers : first.2.lastFilter = memory.lastFilter ∧ second.2.lastFilter = other.lastFilter) :
    Reflects r memory other first second :=
  ⟨like, answer, Or.inl keys, Or.inl numbers⟩

/-- A key is given out, and something is registered under it. -/
theorem Like.addKey (like : Like r memory other) (session : Session)
    {register register' : Key → Write}
    (renamed : ∀ key, register (r.key key) = r.write (register' key))
    (fits : r.key (Key.draw other.keysDrawn) = Key.draw memory.keysDrawn) :
    Reflects r memory other
      ((memory.addKey (r.session session) register).1.map .key,
        (memory.addKey (r.session session) register).2)
      ((other.addKey session register').1.map .key, (other.addKey session register').2) := by
  have counted : Like r { memory with keysDrawn := memory.keysDrawn + 1 }
      { other with keysDrawn := other.keysDrawn + 1 } := like.recount
  have written := counted.write session (register' (Key.draw other.keysDrawn))
  rw [← renamed, fits] at written
  exact {
    like := written
    answer := congrArg (fun key => Except.ok (Given.key key)) fits.symm
    keys := Or.inr ⟨write_keysDrawn .., write_keysDrawn ..⟩
    numbers := Or.inl ⟨write_lastFilter .., write_lastFilter ..⟩ }

theorem addFilter_of_unarmed (unarmed : memory.failAddFilterAt = none) (session : Session)
    (ns : Namespace) (filter : Filter) :
    memory.addFilter session ns filter =
      if memory.sublayerKnown session ns then
        (.ok (memory.lastFilter + 1), { memory with
          addFilterCalls := memory.addFilterCalls + 1, lastFilter := memory.lastFilter + 1 }.write
            session (.filter ⟨memory.lastFilter + 1, ns, filter⟩))
      else (.error .sublayerNotFound,
        { memory with addFilterCalls := memory.addFilterCalls + 1 }) := by
  have passing : memory.failAddFilterAt ≠ some (memory.addFilterCalls + 1) := by
    rw [unarmed]
    exact nofun
  rw [Memory.addFilter, if_neg passing]
  change (if (!memory.sublayerKnown session ns) = true then _ else _) = _
  cases memory.sublayerKnown session ns <;> rfl

/-- A number is given out, if the sublayer is known. -/
theorem Like.addFilter (like : Like r memory other) (session : Session) (ns : Namespace)
    (filter : Filter)
    (fits : (memory.addFilter (r.session session) (ns.rename r.key) filter).2.lastFilter ≠
        memory.lastFilter → r.number (other.lastFilter + 1) = memory.lastFilter + 1) :
    Reflects r memory other
      ((memory.addFilter (r.session session) (ns.rename r.key) filter).1.map .number,
        (memory.addFilter (r.session session) (ns.rename r.key) filter).2)
      ((other.addFilter session ns filter).1.map .number,
        (other.addFilter session ns filter).2) := by
  rw [addFilter_of_unarmed like.unarmed.1, like.sublayerKnown session ns] at fits ⊢
  rw [addFilter_of_unarmed like.unarmed.2]
  split
  next known =>
    rw [if_pos known] at fits
    have number := fits ((write_lastFilter ..).trans_ne (Nat.succ_ne_self _))
    have counted : Like r
        { memory with
          addFilterCalls := memory.addFilterCalls + 1, lastFilter := memory.lastFilter + 1 }
        { other with
          addFilterCalls := other.addFilterCalls + 1, lastFilter := other.lastFilter + 1 } :=
      like.recount
    have written := counted.write session (.filter ⟨other.lastFilter + 1, ns, filter⟩)
    rw [Renaming.write, Renaming.stored, number] at written
    exact {
      like := written
      answer := congrArg (fun id => Except.ok (Given.number id)) number.symm
      keys := Or.inl ⟨write_keysDrawn .., write_keysDrawn ..⟩
      numbers := Or.inr ⟨write_lastFilter .., write_lastFilter ..⟩ }
  next => exact .still like.recount rfl ⟨rfl, rfl⟩ ⟨rfl, rfl⟩

theorem Like.perform (like : Like r memory other) (session : Session) (call : Call)
    (fits : Fits r memory other (memory.perform (r.session session) (call.rename r.key)).2) :
    Reflects r memory other
      ((call.rename r.key).outcome (memory.perform (r.session session) (call.rename r.key)))
      (call.outcome (other.perform session call)) := by
  cases call with
  | begin =>
    cases staged : session.staged with
    | none =>
      simp only [Call.rename, Call.outcome, Memory.perform, Renaming.session, staged,
        Option.map_none]
      exact .still (like.setStaged session.id (some [])) rfl ⟨rfl, rfl⟩ ⟨rfl, rfl⟩
    | some waiting =>
      simp only [Call.rename, Call.outcome, Memory.perform, Renaming.session, staged,
        Option.map_some]
      exact .still like rfl ⟨rfl, rfl⟩ ⟨rfl, rfl⟩
  | commit =>
    cases staged : session.staged with
    | none =>
      simp only [Call.rename, Call.outcome, Memory.perform, Renaming.session, staged,
        Option.map_none]
      exact .still like rfl ⟨rfl, rfl⟩ ⟨rfl, rfl⟩
    | some waiting =>
      simp only [Call.rename, Call.outcome, Memory.perform, Renaming.session, staged,
        Option.map_some]
      have emptied := like.setStaged session.id none
      rw [Option.map_none] at emptied
      rw [emptied.failCommit]
      split
      · exact .still emptied rfl ⟨rfl, rfl⟩ ⟨rfl, rfl⟩
      · exact .still (emptied.foldl_apply session.id waiting) rfl
          ⟨foldl_apply_keysDrawn .., foldl_apply_keysDrawn ..⟩
          ⟨foldl_apply_lastFilter .., foldl_apply_lastFilter ..⟩
  | abort =>
    cases staged : session.staged with
    | none =>
      simp only [Call.rename, Call.outcome, Memory.perform, Renaming.session, staged,
        Option.map_none]
      exact .still like rfl ⟨rfl, rfl⟩ ⟨rfl, rfl⟩
    | some waiting =>
      simp only [Call.rename, Call.outcome, Memory.perform, Renaming.session, staged,
        Option.map_some]
      exact .still (like.setStaged session.id none) rfl ⟨rfl, rfl⟩ ⟨rfl, rfl⟩
  | addProvider name description =>
    refine like.addKey session (fun _ => rfl) (fits.key ?_)
    exact (write_keysDrawn ..).trans_ne (Nat.succ_ne_self _)
  | addSublayer provider name description =>
    have known := like.providerKnown session provider
    simp only [Call.rename, Call.outcome, Memory.perform, known] at fits ⊢
    split
    next present =>
      rw [if_pos present] at fits
      refine like.addKey session (fun _ => rfl) (fits.key ?_)
      exact (write_keysDrawn ..).trans_ne (Nat.succ_ne_self _)
    next => exact .still like rfl ⟨rfl, rfl⟩ ⟨rfl, rfl⟩
  | addFilter ns filter => exact like.addFilter session ns filter fits.number
  | close => exact .still (like.purge session.id) rfl ⟨rfl, rfl⟩ ⟨rfl, rfl⟩

theorem Like.call (like : Like r memory other) (id : SessionId) (call : Call)
    (fits : Fits r memory other (Memory.call id (call.rename r.key) memory).2) :
    Reflects r memory other
      ((call.rename r.key).outcome (Memory.call id (call.rename r.key) memory))
      (call.outcome (Memory.call id call other)) := by
  have found := like.session? id
  cases opened : other.session? id with
  | none =>
    rw [opened, Option.map_none] at found
    rw [Memory.call, Memory.call, opened, found]
    cases call <;> exact .still like rfl ⟨rfl, rfl⟩ ⟨rfl, rfl⟩
  | some session =>
    rw [opened, Option.map_some] at found
    rw [Memory.call, found] at fits ⊢
    rw [Memory.call, opened]
    have counted : Like r { memory with calls := memory.calls + 1 }
        { other with calls := other.calls + 1 } := like.recount
    have made := counted.perform session call ⟨fits.key, fits.number⟩
    exact ⟨made.like, made.answer, made.keys, made.numbers⟩

/-- Like engines give like answers to like moves and stay alike. -/
theorem Like.step (like : Like r memory other) {move : Move} (unarmed : move.arms = false)
    (fits : Fits r memory other (memory.step (move.rename r.key)).2) :
    Reflects r memory other (memory.step (move.rename r.key)) (other.step move) := by
  cases move with
  | openSession =>
    have opened : Like r memory.openSession.2 other.openSession.2 :=
      ⟨congrArg (· + 1) like.lastSession, like.failCommit, like.unarmed, like.providers,
        like.sublayers, like.filters, by
          simp only [Memory.openSession, like.sessions, like.lastSession, List.map_append]
          rfl⟩
    have answer : memory.openSession.1.map Given.session =
        (other.openSession.1.map .session).map r.given :=
      congrArg (fun last => Except.ok (Given.session (last + 1))) like.lastSession
    exact .still opened answer ⟨rfl, rfl⟩ ⟨rfl, rfl⟩
  | call id call => exact like.call id call fits
  | drop id =>
    have closed := like.call id .close fits
    exact ⟨closed.like, rfl, closed.keys, closed.numbers⟩
  | rearm k failing =>
    cases k with
    | some k => cases unarmed
    | none =>
      exact .still ⟨like.lastSession, rfl, ⟨rfl, rfl⟩, like.providers, like.sublayers,
        like.filters, like.sessions⟩ rfl ⟨rfl, rfl⟩ ⟨rfl, rfl⟩

end Steps

end Memory

end TrafficPolicy
