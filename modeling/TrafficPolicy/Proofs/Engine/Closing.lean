import TrafficPolicy.Proofs.Engine.History

/-!
# What the end of a session takes away

A session that ends should take everything with it that it registered.  The engine in memory
removes what hangs under the providers of the session, whoever put it there, and nothing else.
A session can put sublayers and filters under providers of other sessions, and those stay.

`registered_after_close` says so for all runs: what a session leaves behind hangs under providers
that were granted to others, and all that does stays.  `guest_stays` is about a run with a filter
that outlives its session.
-/

namespace TrafficPolicy

namespace History

open Memory

variable {history : History}

/-- When a session ends, just the writes go whose roots are its own. -/
theorem Sound.registered_close (sound : history.Sound) (id : SessionId) {write : Write} :
    write ∈ (history.after (.call id .close)).memory.registered ↔
      write ∈ history.memory.registered ∧
        ¬ (history.memory.Opened id ∧ (id, .provider write.root) ∈ history.granted) := by
  rw [History.after]
  by_cases opened : history.memory.Opened id
  · rw [call_close opened, mem_registered_purge]
    refine and_congr_right fun member => not_congr ⟨fun own => ?_, fun owns => ?_⟩
    · exact ⟨opened, sound.provider_granted _ own⟩
    · exact sound.provider_of_owner member opened owns.2
  · rw [(call_of_not_opened opened .close).2]
    simp [opened]

/-- When a session ends, just its own providers go. -/
theorem Sound.providers_close (sound : history.Sound) (id : SessionId) {entry : Key × SessionId} :
    entry ∈ (history.after (.call id .close)).memory.providers ↔
      entry ∈ history.memory.providers ∧ entry.2 ≠ id := by
  rw [History.after]
  by_cases opened : history.memory.Opened id
  · rw [call_close opened, mem_providers_purge]
    refine and_congr_right fun member => not_congr ⟨fun own => ?_, fun same => same ▸ member⟩
    have nodup := sound.memory.providers_nodup
    exact congrArg Prod.snd (List.inj_on_of_nodup_map nodup member own rfl)
  · rw [(call_of_not_opened opened .close).2]
    refine (and_iff_left_of_imp fun member same => opened ?_).symm
    exact same ▸ sound.provider_open entry member

/-- No session is open after it was closed. -/
theorem not_opened_close (history : History) (id : SessionId) :
    ¬ (history.after (.call id .close)).memory.Opened id := by
  rw [History.after]
  by_cases opened : history.memory.Opened id
  · rw [call_close opened]
    exact fun here => ((opened_of_filter rfl).mp here).2 rfl
  · rwa [(call_of_not_opened opened .close).2]

/-- What is left of a session that is not open hangs under the provider of another one. -/
theorem Sound.root_of_other (sound : history.Sound) {id : SessionId}
    (closed : ¬ history.memory.Opened id) {write : Write}
    (member : write ∈ history.memory.registered) (granted : (id, write) ∈ history.granted) :
    ∃ other, other ≠ id ∧ (other, .provider write.root) ∈ history.granted := by
  obtain ⟨owner, owns⟩ := sound.root_granted _ granted
  exact ⟨owner, fun same => closed (sound.own_open write member id granted (same ▸ owns)), owns⟩

/-- After any moves, a session that is closed or dropped leaves nothing under the providers that
it was granted.  What it put under providers of other sessions stays, like everything else, and is
all that it can ever leave behind. -/
theorem registered_after_close (moves : List Move) (id : SessionId) :
    run (moves ++ [.drop id]) = run (moves ++ [.call id .close]) ∧
      ¬ (run (moves ++ [.call id .close])).memory.Opened id ∧
      (∀ write, write ∈ (run (moves ++ [.call id .close])).memory.registered ↔
        write ∈ (run moves).memory.registered ∧
          ¬ ((run moves).memory.Opened id ∧ (id, .provider write.root) ∈ (run moves).granted)) ∧
      (∀ entry, entry ∈ (run (moves ++ [.call id .close])).memory.providers ↔
        entry ∈ (run moves).memory.providers ∧ entry.2 ≠ id) ∧
      (¬ (run moves).memory.Opened id → ∀ write ∈ (run moves).memory.registered,
        (id, write) ∈ (run moves).granted →
          ∃ other, other ≠ id ∧ (other, .provider write.root) ∈ (run moves).granted) := by
  simp only [run_concat]
  have sound := sound_run moves
  exact ⟨after_drop _ id, not_opened_close _ id, fun write => sound.registered_close id,
    fun entry => sound.providers_close id,
    fun closed write member => sound.root_of_other closed member⟩

/-- A run in which a session puts a filter under the provider of another one and is closed. -/
def guest : List Move :=
  let provider := Key.draw 0
  let sublayer := Key.draw 1
  [.openSession, .openSession,
    .call 1 (.addProvider "provider" ""), .call 1 (.addSublayer provider "sublayer" ""),
    .call 2 (.addFilter ⟨provider, sublayer⟩ ⟨.connectV4, .block, 1, [], "filter"⟩),
    .call 2 .close]

/-- The session that added the filter is closed, and the filter decides packets. -/
theorem guest_stays :
    (run guest).memory.session? 2 = none ∧
      (∃ stored ∈ (run guest).memory.filters, (2, .filter stored) ∈ (run guest).granted) ∧
      (run guest).memory.classify (.outbound (.v4 0x09090909) 443 6) = some .block := by
  decide +kernel

end History

end TrafficPolicy
