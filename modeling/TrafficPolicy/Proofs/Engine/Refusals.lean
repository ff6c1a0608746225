import TrafficPolicy.Proofs.Engine.Closing
import TrafficPolicy.Proofs.Engine.OpenTransaction

/-!
# What refused calls leave as it was

`Memory.Refused` lists the calls that an engine in memory refuses, with the error and with what
becomes of the engine, and `refused_iff` says that there are no others.  A refusal is counted, and a
commit that is made to fail ends its transaction.  All else stays as it was (`Undisturbed`).

A session that is closed is never opened again: the numbers of sessions only grow
(`Sound.not_opened_after`).
-/

namespace TrafficPolicy

namespace Memory

/-- The calls on a session that are refused, with the error and with the engine after it. -/
inductive Refused (memory : Memory) (id : SessionId) : Call → EngineError → Memory → Prop
  | closed {call : Call} (absent : memory.session? id = none) (goes_on : call ≠ .close) :
    Refused memory id call .sessionClosed memory
  | begun {waiting : List Write} (found : memory.session? id = some ⟨id, some waiting⟩) :
    Refused memory id .begin .transactionInProgress { memory with calls := memory.calls + 1 }
  | idle {call : Call} (found : memory.session? id = some ⟨id, none⟩)
    (ending : call = .commit ∨ call = .abort) :
    Refused memory id call .noTransaction { memory with calls := memory.calls + 1 }
  | withoutProvider {session : Session} {provider : Key} {name description : String}
    (found : memory.session? id = some session)
    (unknown : memory.providerKnown session provider = false) :
    Refused memory id (.addSublayer provider name description) .providerNotFound
      { memory with calls := memory.calls + 1 }
  | failingFilter {session : Session} {ns : Namespace} {filter : Filter}
    (found : memory.session? id = some session)
    (due : memory.failAddFilterAt = some (memory.addFilterCalls + 1)) :
    Refused memory id (.addFilter ns filter) .injectedAddFilter
      { memory with calls := memory.calls + 1, addFilterCalls := memory.addFilterCalls + 1 }
  | withoutSublayer {session : Session} {ns : Namespace} {filter : Filter}
    (found : memory.session? id = some session)
    (spared : memory.failAddFilterAt ≠ some (memory.addFilterCalls + 1))
    (unknown : memory.sublayerKnown session ns = false) :
    Refused memory id (.addFilter ns filter) .sublayerNotFound
      { memory with calls := memory.calls + 1, addFilterCalls := memory.addFilterCalls + 1 }
  | failingCommit {waiting : List Write} (found : memory.session? id = some ⟨id, some waiting⟩)
    (failing : memory.failCommit = true) :
    Refused memory id .commit .injectedCommit
      ({ memory with calls := memory.calls + 1 }.setStaged id none)

/-- What a refused call does not change. -/
structure Undisturbed (memory next : Memory) : Prop where
  providers : next.providers = memory.providers
  sublayers : next.sublayers = memory.sublayers
  filters : next.filters = memory.filters
  lastSession : next.lastSession = memory.lastSession
  /-- The numbers of filters, which also order them. -/
  lastFilter : next.lastFilter = memory.lastFilter
  keysDrawn : next.keysDrawn = memory.keysDrawn
  failAddFilterAt : next.failAddFilterAt = memory.failAddFilterAt
  failCommit : next.failCommit = memory.failCommit
  /-- The sessions that are open. -/
  opened : next.sessions.map (·.id) = memory.sessions.map (·.id)

variable {memory next : Memory} {id : SessionId} {call : Call} {error : EngineError}

theorem answerClosed_of_ne (goes_on : call ≠ .close) :
    answerClosed call = .error .sessionClosed := by
  cases call with
  | close => exact absurd rfl goes_on
  | begin | commit | abort | addProvider | addSublayer | addFilter => rfl

/-- Just the listed calls are refused. -/
theorem refused_iff :
    Memory.call id call memory = (.error error, next) ↔ Refused memory id call error next := by
  constructor
  · intro refused
    rw [Memory.call] at refused
    cases found : memory.session? id with
    | none =>
      by_cases goes_on : call = .close
      · subst goes_on
        rw [found] at refused
        cases refused
      · simp only [found, answerClosed_of_ne goes_on] at refused
        cases refused
        exact .closed found goes_on
    | some session =>
      obtain ⟨_, rfl⟩ := session?_eq_some found
      obtain ⟨id, staged⟩ := session
      simp only [found] at refused
      cases call with
      | begin =>
        cases staged with
        | none => cases refused
        | some waiting =>
          cases refused
          exact .begun found
      | commit =>
        cases staged with
        | none =>
          cases refused
          exact .idle found (Or.inl rfl)
        | some waiting =>
          simp only [perform] at refused
          split at refused
          next failing =>
            cases refused
            exact .failingCommit found failing
          next => cases refused
      | abort =>
        cases staged with
        | none =>
          cases refused
          exact .idle found (Or.inr rfl)
        | some waiting => cases refused
      | addProvider name description => cases refused
      | addSublayer provider name description =>
        simp only [perform] at refused
        split at refused
        next => cases refused
        next unknown =>
          cases refused
          exact .withoutProvider found (Bool.eq_false_iff.mpr unknown)
      | addFilter ns filter =>
        simp only [perform, Memory.addFilter] at refused
        split at refused
        next due =>
          cases refused
          exact .failingFilter found due
        next spared =>
          split at refused
          next unknown =>
            cases refused
            exact .withoutSublayer found spared ((Bool.not_eq_true' _).mp unknown)
          next => cases refused
      | close => cases refused
  · intro refused
    rw [Memory.call]
    cases refused with
    | closed absent goes_on => simp only [absent, answerClosed_of_ne goes_on]
    | begun found => simp only [found, perform]
    | idle found ending => rcases ending with rfl | rfl <;> simp only [found, perform]
    | withoutProvider found unknown =>
      simp only [found, perform]
      exact if_neg (Bool.eq_false_iff.mp unknown)
    | failingFilter found due =>
      simp only [found, perform, Memory.addFilter]
      exact if_pos due
    | withoutSublayer found spared unknown =>
      simp only [found, perform, Memory.addFilter]
      exact (if_neg spared).trans (if_pos ((Bool.not_eq_true' _).mpr unknown))
    | failingCommit found failing =>
      simp only [found, perform]
      exact if_pos failing

theorem Refused.undisturbed (refused : Refused memory id call error next) :
    memory.Undisturbed next := by
  cases refused with
  | failingCommit =>
    exact ⟨rfl, rfl, rfl, rfl, rfl, rfl, rfl, rfl, map_id_setStaged ..⟩
  | closed | begun | idle | withoutProvider | failingFilter | withoutSublayer =>
    exact ⟨rfl, rfl, rfl, rfl, rfl, rfl, rfl, rfl, rfl⟩

/-- The verdicts are those of the tables. -/
theorem Undisturbed.classify (undisturbed : memory.Undisturbed next) (packet : Packet) :
    next.classify packet = memory.classify packet := by
  rw [Memory.classify, decisive?, undisturbed.filters]
  rfl

/-- Other sessions have the transactions that they had. -/
theorem Refused.session?_of_ne (refused : Refused memory id call error next) {other : SessionId}
    (apart : other ≠ id) : next.session? other = memory.session? other := by
  cases refused with
  | failingCommit =>
    refine (session?_setStaged _ id other none).trans ?_
    rw [if_neg apart]
    rfl
  | closed | begun | idle | withoutProvider | failingFilter | withoutSublayer => rfl

/-- A session keeps the transaction that it has, unless its commit is made to fail. -/
theorem Refused.session? (refused : Refused memory id call error next) :
    error ≠ .injectedCommit ∧ next.session? id = memory.session? id ∨
      error = .injectedCommit ∧ call = .commit ∧ next.session? id = some ⟨id, none⟩ ∧
        ∃ waiting, memory.session? id = some ⟨id, some waiting⟩ := by
  cases refused with
  | failingCommit found failing =>
    refine Or.inr ⟨rfl, rfl, ?_, _, found⟩
    refine (session?_setStaged _ id id none).trans ?_
    rw [if_pos rfl]
    exact congrArg (Option.map _) found
  | closed | begun | idle | withoutProvider | failingFilter | withoutSublayer =>
    exact Or.inl ⟨by decide, rfl⟩

end Memory

namespace History

open Memory

variable {history : History}

/-- What is not open and was opened before is not opened by any move. -/
theorem Sound.not_opened_after (sound : history.Sound) {id : SessionId}
    (before : id ≤ history.memory.lastSession) (closed : ¬ history.memory.Opened id)
    (move : Move) : ¬ (history.after move).memory.Opened id := by
  have calls : ∀ other call, ¬ (Memory.call other call history.memory).2.Opened id := by
    intro other call opened
    cases found : history.memory.session? other with
    | none =>
      rw [(call_of_not_opened (session?_eq_none_iff_not_opened.mp found) call).2] at opened
      exact closed opened
    | some session =>
      obtain ⟨_, rfl⟩ := session?_eq_some found
      exact closed ((sound.memory.call_effect found call).opened opened)
  cases move with
  | openSession =>
    rintro ⟨session, member, rfl⟩
    rcases List.mem_append.mp member with old | new
    · exact closed ⟨session, old, rfl⟩
    · rw [List.mem_singleton.mp new] at before
      exact Nat.not_succ_le_self _ before
  | call other call => exact calls other call
  | drop other => exact calls other .close
  | rearm failAddFilterAt failCommit => exact closed

/-- A session that was opened and is closed stays closed. -/
theorem not_opened_run {earlier : List Move} {id : SessionId}
    (before : id ≤ (run earlier).memory.lastSession) (closed : ¬ (run earlier).memory.Opened id)
    (later : List Move) : ¬ (run (earlier ++ later)).memory.Opened id := by
  induction later using List.reverseRecOn with
  | nil => rwa [List.append_nil]
  | append_singleton later move ih =>
    rw [← List.append_assoc, run_concat]
    have grown := (grows_of_isPrefix (List.prefix_append earlier later)).lastSession
    exact (sound_run _).not_opened_after (Nat.le_trans before grown) ih move

/-- After any moves, a call that is refused leaves the tables, what is given out, the sessions that
are open and the transactions of the others as they are, and so all verdicts.  Its own transaction
stays as well, unless its commit was made to fail: then that is over, with all writes in it.  And a
session that was opened and was closed or dropped stays closed, whatever happens: all its calls are
refused but for those to close it, and they change nothing. -/
theorem refused_leaves (moves : List Move) (id : SessionId) :
    (∀ call error, (Memory.call id call (run moves).memory).1 = .error error →
      let before := (run moves).memory
      let next := (run (moves ++ [.call id call])).memory
      Refused before id call error next ∧ before.Undisturbed next ∧
        (∀ packet, next.classify packet = before.classify packet) ∧
        (∀ other, other ≠ id → next.session? other = before.session? other) ∧
        (error ≠ .injectedCommit ∧ next.session? id = before.session? id ∨
          error = .injectedCommit ∧ call = .commit ∧ next.session? id = some ⟨id, none⟩ ∧
            ∃ waiting, before.session? id = some ⟨id, some waiting⟩)) ∧
      (id ≤ (run moves).memory.lastSession →
        ∀ ending, ending = .call id .close ∨ ending = .drop id → ∀ later,
          let memory := (run (moves ++ [ending] ++ later)).memory
          memory.session? id = none ∧ Memory.call id .close memory = (.ok (), memory) ∧
            ∀ call, call ≠ .close →
              Memory.call id call memory = (.error .sessionClosed, memory)) := by
  refine ⟨fun call error failed => ?_, fun before ending ends later => ?_⟩
  · have refused : Refused (run moves).memory id call error
        (run (moves ++ [.call id call])).memory := by
      rw [run_concat]
      exact refused_iff.mp (Prod.ext failed rfl)
    exact ⟨refused, refused.undisturbed, refused.undisturbed.classify,
      fun _ apart => refused.session?_of_ne apart, refused.session?⟩
  · have ended : run (moves ++ [ending]) = (run moves).after (.call id .close) := by
      rw [run_concat]
      rcases ends with rfl | rfl
      · rfl
      · exact after_drop _ id
    have closed : ¬ (run (moves ++ [ending])).memory.Opened id := ended ▸ not_opened_close _ id
    have opened_before : id ≤ (run (moves ++ [ending])).memory.lastSession :=
      Nat.le_trans before (grows_of_isPrefix (List.prefix_append ..)).lastSession
    have absent := session?_eq_none_iff_not_opened.mpr (not_opened_run opened_before closed later)
    refine ⟨absent, ?_, fun call goes_on => ?_⟩
    · rw [Memory.call, absent]
      rfl
    · exact refused_iff.mpr (.closed absent goes_on)

/-- A commit is made to fail while another session waits to commit: what was staged is forgotten,
the other session goes on, and the first one is closed for good. -/
theorem refused_beside_waiting :
    let moves : List Move := [.openSession, .openSession, .call 1 .begin, .call 2 .begin,
      .call 1 (.addProvider "provider" ""), .call 2 (.addProvider "other" ""), .rearm none true]
    let before := (run moves).memory
    let next := (run (moves ++ [.call 1 .commit])).memory
    before.session? 1 = some ⟨1, some [.provider (Key.draw 0)]⟩ ∧ next.session? 1 = some ⟨1, none⟩ ∧
      next.session? 2 = some ⟨2, some [.provider (Key.draw 1)]⟩ ∧ next.providers = [] ∧
      ∀ later, Memory.call 1 .begin (run (moves ++ [.drop 1] ++ later)).memory =
        (.error .sessionClosed, (run (moves ++ [.drop 1] ++ later)).memory) := by
  intro moves before next
  obtain ⟨refused, closed⟩ := refused_leaves moves 1
  obtain ⟨_, undisturbed, _, others, ⟨other, _⟩ | ⟨_, _, ended, _⟩⟩ :=
    refused .commit .injectedCommit (by decide +kernel)
  · exact absurd rfl other
  · have waiting : before.session? 2 = some ⟨2, some [.provider (Key.draw 1)]⟩ := by decide +kernel
    refine ⟨by decide +kernel, ended, (others 2 (by decide)).trans waiting, ?_, fun later => ?_⟩
    · exact undisturbed.providers.trans (by decide +kernel)
    · exact (closed (by decide +kernel) (.drop 1) (Or.inr rfl) later).2.2 .begin nofun

end History

end TrafficPolicy
