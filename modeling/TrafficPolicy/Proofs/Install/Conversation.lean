import TrafficPolicy.Engine.Watched
import TrafficPolicy.Proofs.Install.Stage

/-!
# Conversations with an engine

What an installation says to an engine, and what it is told.  `Engine.transcribed` writes down
every call with its answer, and every session that is let go.  Nothing is known about the engine:
it may grant or refuse whatever it likes, and give any keys and numbers.

`Conversation` is the protocol that an installation keeps to.  It asks for the calls of
`InstallOptions.requests` one after the other, until all are granted or one is refused.  In the
second case it aborts the transaction, if it has begun, closes the session and lets it go, whatever
the engine says to that; the outcome is the refusal.  `exists_conversation` says that all
installations keep to it.
-/

namespace TrafficPolicy

/-- What an engine gives back when it grants a call, or a session. -/
abbrev Event.Reply {ι : Type} : Event ι → Type
  | .openSession .. => ι
  | .call _ request => request.Reply

/-- An entry of a transcript. -/
inductive Exchange (ι : Type) where
  | answered (event : Event ι) (answer : Except EngineError event.Reply)
  | dropped (session : ι)

/-- A call that was granted, with what the engine gave back. -/
structure Grant where
  call : Call
  reply : call.Reply

namespace Grant

/-- How a call that was granted appears in a transcript. -/
def exchange {ι : Type} (session : ι) (grant : Grant) : Exchange ι :=
  .answered (.call session grant.call) (.ok grant.reply)

/-- The number that was given to a filter. -/
def number? : Grant → Option FilterId
  | ⟨.addFilter .., id⟩ => some id
  | _ => none

/-- The keys that were given are those of the namespace. -/
def Names (ns : Namespace) : Grant → Prop
  | ⟨.addProvider .., key⟩ => key = ns.provider
  | ⟨.addSublayer .., key⟩ => key = ns.sublayer
  | _ => True

end Grant

/-- Among the granted calls is the one that begins a transaction. -/
def Grant.begun (grants : List Grant) : Bool :=
  grants.any (·.call = .begin)

/-- The calls that an installation asks for on its session, one after the other. -/
def InstallOptions.requests (options : InstallOptions) (filters : List Filter) (ns : Namespace) :
    List Call :=
  [.begin, .addProvider options.providerName options.sessionDescription,
    .addSublayer ns.provider options.sublayerName options.sessionDescription] ++
    filters.map (.addFilter ns) ++ [.commit]

section Transcripts

variable {σ ι : Type}

/-- What was said to an engine, and what it answered. -/
abbrev Transcript (ι : Type) := List (Exchange ι)

/-- An engine beside which there is written down what is said. -/
def Engine.transcribed (engine : Engine σ ι) : Engine (σ × Transcript ι) ι where
  openSession name description state :=
    let (answer, next) := engine.openSession name description state.1
    (answer, next, state.2 ++ [.answered (.openSession name description) answer])
  call session call state :=
    let (answer, next) := engine.call session call state.1
    (answer, next, state.2 ++ [.answered (.call session call) answer])
  drop session state := (engine.drop session state.1, state.2 ++ [.dropped session])

/-- The transcript of calls that were granted, from the session on. -/
def Transcript.granted (options : InstallOptions) (session : ι) (grants : List Grant) :
    Transcript ι :=
  .answered (.openSession options.sessionName options.sessionDescription) (.ok session) ::
    grants.map (·.exchange session)

/-- The transcript of calls that were granted, but for the last one. -/
def Transcript.refused (options : InstallOptions) (session : ι) (grants : List Grant) (call : Call)
    (error : EngineError) : Transcript ι :=
  granted options session grants ++ [.answered (.call session call) (.error error)]

/-- The end of a transaction, if there is one. -/
def Transcript.withdrawn (session : ι) (grants : List Grant) (aborted : Except EngineError Unit) :
    Transcript ι :=
  if Grant.begun grants then [.answered (.call session .abort) aborted] else []

/-- The protocol of an installation: the transcripts that it can leave, with its outcomes. -/
inductive Conversation (options : InstallOptions) (filters : List Filter) :
    Transcript ι → Except PolicyError (Installed ι) → Prop
  /-- There is no session, and nothing more is said. -/
  | unopened (error : EngineError) :
    Conversation options filters
      [.answered (.openSession options.sessionName options.sessionDescription) (.error error)]
      (.error (.install openSessionName error))
  /-- Everything is granted, and nothing more is said. -/
  | complete (session : ι) (ns : Namespace) (grants : List Grant)
    (asked : grants.map (·.call) = options.requests filters ns)
    (named : ∀ grant ∈ grants, grant.Names ns) :
    Conversation options filters (Transcript.granted options session grants)
      (.ok ⟨some session, ns, grants.filterMap (·.number?)⟩)
  /-- A call is refused, and the session is given up. -/
  | broken (session : ι) (ns : Namespace) (grants : List Grant) (call : Call)
    (error : EngineError) (later : List Call) (aborted closed : Except EngineError Unit)
    (asked : grants.map (·.call) ++ call :: later = options.requests filters ns)
    (named : ∀ grant ∈ grants, grant.Names ns) :
    Conversation options filters
      (Transcript.refused options session grants call error ++
        Transcript.withdrawn session grants aborted ++
        [.answered (.call session .close) closed, .dropped session])
      (.error (.install call.name error))

theorem Engine.openSession_transcribed (engine : Engine σ ι) (name description : String)
    (state : σ) (log : Transcript ι) :
    engine.transcribed.openSession name description (state, log) =
      ((engine.openSession name description state).1, (engine.openSession name description state).2,
        log ++ [.answered (.openSession name description)
          (engine.openSession name description state).1]) :=
  rfl

theorem Engine.request_eq (engine : Engine σ ι) (session : ι) (call : Call) (state : σ) :
    engine.request session call state =
      ((engine.call session call state).1.mapError (.install call.name),
        (engine.call session call state).2) :=
  rfl

theorem Engine.request_transcribed (engine : Engine σ ι) (session : ι) (call : Call) (state : σ)
    (log : Transcript ι) :
    engine.transcribed.request session call (state, log) =
      ((engine.call session call state).1.mapError (.install call.name),
        (engine.call session call state).2,
        log ++ [.answered (.call session call) (engine.call session call state).1]) :=
  rfl

/-- A call was refused, so that an installation ends with this error. -/
def Denied (options : InstallOptions) (filters : List Filter) (session : ι) (grants : List Grant)
    (error : PolicyError) (log : Transcript ι) : Prop :=
  ∃ ns call reason later, grants.map (·.call) ++ call :: later = options.requests filters ns ∧
    (∀ grant ∈ grants, grant.Names ns) ∧ error = .install call.name reason ∧
    log = Transcript.refused options session grants call reason

/-- The grants before the first filter. -/
def InstallOptions.opening (options : InstallOptions) (ns : Namespace) : List Grant :=
  [⟨.begin, ()⟩, ⟨.addProvider options.providerName options.sessionDescription, ns.provider⟩,
    ⟨.addSublayer ns.provider options.sublayerName options.sessionDescription, ns.sublayer⟩]

/-- The grants of filters. -/
def Namespace.grants (ns : Namespace) (filters : List Filter) (ids : List FilterId) : List Grant :=
  List.zipWith (fun filter id => ⟨.addFilter ns filter, id⟩) filters ids

theorem Namespace.map_call_grants {ns : Namespace} {filters : List Filter} {ids : List FilterId}
    (within : ids.length ≤ filters.length) :
    (ns.grants filters ids).map (·.call) =
      (filters.take ids.length).map (.addFilter ns) := by
  induction ids generalizing filters with
  | nil => simp [Namespace.grants]
  | cons id ids ih =>
    cases filters with
    | nil => cases within
    | cons filter filters =>
      exact congrArg (_ :: ·) (ih (Nat.le_of_succ_le_succ within))

theorem Namespace.grants_concat {ns : Namespace} {filters : List Filter} {ids : List FilterId}
    {filter : Filter} (found : filters[ids.length]? = some filter) (id : FilterId) :
    ns.grants filters (ids ++ [id]) =
      ns.grants filters ids ++ [⟨.addFilter ns filter, id⟩] := by
  induction ids generalizing filters with
  | nil =>
    cases filters with
    | nil => cases found
    | cons first rest =>
      cases found
      simp [Namespace.grants]
  | cons earlier ids ih =>
    cases filters with
    | nil => cases found
    | cons first rest => exact congrArg (_ :: ·) (ih found)

theorem Namespace.filterMap_number?_grants {ns : Namespace} {filters : List Filter}
    {ids : List FilterId} (within : ids.length ≤ filters.length) :
    (ns.grants filters ids).filterMap (·.number?) = ids := by
  induction ids generalizing filters with
  | nil => simp [Namespace.grants]
  | cons id ids ih =>
    cases filters with
    | nil => cases within
    | cons filter filters =>
      exact congrArg (id :: ·) (ih (Nat.le_of_succ_le_succ within))

/-- Filters are added under the keys that were given. -/
theorem names_of_mem_grants {options : InstallOptions} {ns : Namespace} {filters : List Filter}
    {ids : List FilterId} {grant : Grant}
    (member : grant ∈ options.opening ns ++ ns.grants filters ids) :
    grant.Names ns := by
  rcases List.mem_append.mp member with first | later
  · simp only [InstallOptions.opening, List.mem_cons, List.not_mem_nil, or_false] at first
    rcases first with rfl | rfl | rfl
    · trivial
    · exact rfl
    · exact rfl
  · rw [Namespace.grants, List.zipWith_eq_zipWith_take_min,
      ← List.map_uncurry_zip_eq_zipWith] at later
    obtain ⟨pair, _, rfl⟩ := List.mem_map.mp later
    trivial

/-- What is asked for after some filters: the others, and the commit. -/
theorem InstallOptions.requests_eq (options : InstallOptions) {ns : Namespace}
    {filters : List Filter} {ids : List FilterId} (within : ids.length ≤ filters.length) :
    options.requests filters ns =
      (options.opening ns ++ ns.grants filters ids).map (·.call) ++
        ((filters.drop ids.length).map (.addFilter ns) ++ [.commit]) := by
  have split := congrArg (List.map (Call.addFilter ns)) (List.take_append_drop ids.length filters)
  rw [List.map_append] at split
  rw [requests, List.map_append, Namespace.map_call_grants within, ← split, List.append_assoc,
    List.append_assoc, List.append_assoc]
  rfl

theorem Transcript.granted_concat (options : InstallOptions) (session : ι) (grants : List Grant)
    (grant : Grant) :
    Transcript.granted options session (grants ++ [grant]) =
      Transcript.granted options session grants ++ [grant.exchange session] := by
  simp [granted]

/-- All filters were added and the commit was granted. -/
theorem Conversation.of_filled (options : InstallOptions) (session : ι) (ns : Namespace)
    {filters : List Filter} {ids : List FilterId} (within : ids.length ≤ filters.length)
    (full : filters.length ≤ ids.length) :
    Conversation options filters
      (Transcript.granted options session (options.opening ns ++ ns.grants filters ids) ++
        [.answered (.call session .commit) (.ok ())])
      (.ok ⟨some session, ns, ids⟩) := by
  let grants := options.opening ns ++ ns.grants filters ids ++ [⟨.commit, ()⟩]
  have asked : grants.map (·.call) = options.requests filters ns := by
    rw [options.requests_eq within, List.drop_eq_nil_of_le full, List.map_append]
    rfl
  have named : ∀ grant ∈ grants, grant.Names ns := by
    intro grant member
    rcases List.mem_append.mp member with earlier | last
    · exact names_of_mem_grants earlier
    · exact List.mem_singleton.mp last ▸ trivial
  have numbers : grants.filterMap (·.number?) = ids := by
    rw [List.filterMap_append, List.filterMap_append, Namespace.filterMap_number?_grants within]
    exact List.append_nil ids
  have ended := Conversation.complete session ns grants asked named
  rwa [numbers, Transcript.granted_concat] at ended

namespace Stage

/-- What has been said up to a stage of an installation. -/
def Said (options : InstallOptions) (policy : Policy) : Stage ι → Transcript ι → Prop
  | opening, log => log = []
  | beginning session, log => log = Transcript.granted options session []
  | naming session, log => log = Transcript.granted options session [⟨.begin, ()⟩]
  | layering session provider, log =>
    log = Transcript.granted options session [⟨.begin, ()⟩,
      ⟨.addProvider options.providerName options.sessionDescription, provider⟩]
  | filling session ns ids, log =>
    ids.length ≤ policy.filters.length ∧
      log = Transcript.granted options session
        (options.opening ns ++ ns.grants policy.filters ids)
  | aborting session error, log =>
    ∃ grants, Grant.begun grants = true ∧ Denied options policy.filters session grants error log
  | closing session error, log =>
    ∃ grants told aborted, Denied options policy.filters session grants error told ∧
      log = told ++ Transcript.withdrawn session grants aborted
  | leaving session error, log =>
    ∃ grants told aborted closed, Denied options policy.filters session grants error told ∧
      log = told ++ Transcript.withdrawn session grants aborted ++
        [.answered (.call session .close) closed]
  | finished outcome, log => Conversation options policy.filters log outcome

section Transcribed

variable (engine : Engine σ ι) (options : InstallOptions) (policy : Policy)

/-- A step is the same whether or not it is written down. -/
theorem step_transcribed (stage : Stage ι) (state : σ) (log : Transcript ι) :
    ∃ added, stage.step engine.transcribed options policy (state, log) =
      ((stage.step engine options policy state).1, (stage.step engine options policy state).2,
        log ++ added) := by
  cases stage with
  | opening =>
    simp only [step, Engine.openSession_transcribed]
    rcases engine.openSession options.sessionName options.sessionDescription state with
      ⟨_ | session, next⟩ <;> exact ⟨_, rfl⟩
  | beginning session =>
    simp only [step, Engine.request_transcribed, Engine.request_eq engine]
    rcases engine.call session .begin state with ⟨_ | _, next⟩ <;> exact ⟨_, rfl⟩
  | naming session =>
    simp only [step, Engine.request_transcribed, Engine.request_eq engine]
    rcases engine.call session (.addProvider _ _) state with ⟨_ | _, next⟩ <;> exact ⟨_, rfl⟩
  | layering session provider =>
    simp only [step, Engine.request_transcribed, Engine.request_eq engine]
    rcases engine.call session (.addSublayer _ _ _) state with ⟨_ | _, next⟩ <;> exact ⟨_, rfl⟩
  | filling session ns ids =>
    simp only [step, Engine.request_transcribed, Engine.request_eq engine]
    cases policy.filters[ids.length]? with
    | some filter =>
      dsimp only
      rcases engine.call session (.addFilter ns filter) state with ⟨_ | _, next⟩ <;>
        exact ⟨_, rfl⟩
    | none =>
      dsimp only
      rcases engine.call session .commit state with ⟨_ | _, next⟩ <;> exact ⟨_, rfl⟩
  | aborting session error => exact ⟨_, rfl⟩
  | closing session error => exact ⟨_, rfl⟩
  | leaving session error => exact ⟨_, rfl⟩
  | finished result => exact ⟨[], by rw [List.append_nil]; rfl⟩

/-- A step says what is due. -/
theorem Said.step {stage : Stage ι} {log : Transcript ι}
    (said : stage.Said options policy log) (state : σ) :
    (stage.step engine.transcribed options policy (state, log)).1.Said options policy
      (stage.step engine.transcribed options policy (state, log)).2.2 := by
  cases stage with
  | opening =>
    have nothing : log = [] := said
    subst nothing
    simp only [Stage.step, Engine.openSession_transcribed]
    rcases engine.openSession options.sessionName options.sessionDescription state with
      ⟨error | session, next⟩
    · exact Conversation.unopened error
    · rfl
  | beginning session =>
    simp only [Stage.step, Engine.request_transcribed]
    rw [said]
    rcases engine.call session .begin state with ⟨error | _, next⟩
    · refine ⟨[], _, .ok (), ⟨⟨⟨0⟩, ⟨0⟩⟩, .begin, error, _, rfl, ?_, rfl, rfl⟩, ?_⟩
      · exact List.forall_mem_nil _
      · rw [Transcript.withdrawn, if_neg (by decide), List.append_nil]
        rfl
    · exact (Transcript.granted_concat options session [] ⟨.begin, ()⟩).symm
  | naming session =>
    simp only [Stage.step, Engine.request_transcribed]
    rw [said]
    rcases engine.call session (.addProvider _ _) state with ⟨error | provider, next⟩
    · refine ⟨_, rfl, ⟨⟨0⟩, ⟨0⟩⟩, _, error, _, rfl, ?_, rfl, rfl⟩
      exact List.forall_mem_singleton.mpr trivial
    · exact (Transcript.granted_concat options session
        [⟨.begin, ()⟩] ⟨.addProvider _ _, provider⟩).symm
  | layering session provider =>
    simp only [Stage.step, Engine.request_transcribed]
    rw [said]
    rcases engine.call session (.addSublayer _ _ _) state with ⟨error | sublayer, next⟩
    · refine ⟨_, rfl, ⟨provider, ⟨0⟩⟩, _, error, _, rfl, ?_, rfl, rfl⟩
      exact List.forall_mem_cons.mpr ⟨trivial, List.forall_mem_singleton.mpr rfl⟩
    · refine ⟨Nat.zero_le _, ?_⟩
      rw [Namespace.grants, List.zipWith_nil_right, List.append_nil]
      exact (Transcript.granted_concat options session
        [⟨.begin, ()⟩, ⟨.addProvider _ _, provider⟩] ⟨.addSublayer _ _ _, sublayer⟩).symm
  | filling session ns ids =>
    obtain ⟨within, rfl⟩ := said
    have asked := @InstallOptions.requests_eq options ns _ _ within
    cases found : policy.filters[ids.length]? with
    | some filter =>
      obtain ⟨below, rfl⟩ := List.getElem?_eq_some_iff.mp found
      rw [List.drop_eq_getElem_cons below] at asked
      simp only [Stage.step, found, Engine.request_transcribed]
      rcases engine.call session (.addFilter ns policy.filters[ids.length]) state with
        ⟨error | id, next⟩
      · exact ⟨_, rfl, ns, _, error, _, asked.symm, fun _ => names_of_mem_grants, rfl, rfl⟩
      · refine ⟨by rwa [List.length_append, List.length_singleton, Nat.succ_le_iff], ?_⟩
        rw [Namespace.grants_concat found, ← List.append_assoc, Transcript.granted_concat]
        rfl
    | none =>
      have full := List.getElem?_eq_none_iff.mp found
      rw [List.drop_eq_nil_of_le full] at asked
      simp only [Stage.step, found, Engine.request_transcribed]
      rcases engine.call session .commit state with ⟨error | _, next⟩
      · exact ⟨_, rfl, ns, _, error, _, asked.symm, fun _ => names_of_mem_grants, rfl, rfl⟩
      · exact Conversation.of_filled options session ns within full
  | aborting session error =>
    obtain ⟨grants, under, denied⟩ := said
    refine ⟨grants, log, (engine.call session .abort state).1, denied, ?_⟩
    rw [Transcript.withdrawn, if_pos under]
    rfl
  | closing session error =>
    obtain ⟨grants, told, aborted, denied, rfl⟩ := said
    exact ⟨grants, told, aborted, (engine.call session .close state).1, denied, rfl⟩
  | leaving session error =>
    obtain ⟨grants, told, aborted, closed, denied, rfl⟩ := said
    obtain ⟨ns, call, reason, later, asked, named, rfl, rfl⟩ := denied
    have ended := Conversation.broken session ns grants call reason later aborted closed asked named
    rwa [List.append_cons] at ended
  | finished result => exact said

/-- The steps of an installation, written down. -/
theorem iterate_transcribed (n : Nat) (state : σ) :
    ∃ log, (advance engine.transcribed options policy)^[n] (opening, state, []) =
        (((advance engine options policy)^[n] (opening, state)).1,
          ((advance engine options policy)^[n] (opening, state)).2, log) ∧
      ((advance engine options policy)^[n] (opening, state)).1.Said options policy log := by
  induction n with
  | zero => exact ⟨[], rfl, rfl⟩
  | succ n ih =>
    obtain ⟨log, reached, said⟩ := ih
    rw [Function.iterate_succ_apply', Function.iterate_succ_apply', reached]
    obtain ⟨added, stepped⟩ := step_transcribed engine options policy
      ((advance engine options policy)^[n] (opening, state)).1
      ((advance engine options policy)^[n] (opening, state)).2 log
    have next := Said.step engine options policy said
      ((advance engine options policy)^[n] (opening, state)).2
    rw [stepped] at next
    exact ⟨log ++ added, stepped, next⟩

/-- The steps of an installation do not change how it ends. -/
theorem outcome_iterate (n : Nat) (stage : Stage ι) (state : σ) :
    outcome engine options policy ((advance engine options policy)^[n] (stage, state)).1
        ((advance engine options policy)^[n] (stage, state)).2 =
      outcome engine options policy stage state := by
  induction n with
  | zero => rfl
  | succ n ih =>
    rw [Function.iterate_succ_apply', ← ih]
    exact outcome_step engine options policy _ _

end Transcribed

end Stage

/-- Whatever the engine answers, an installation keeps to the protocol.  Written down, it is the
same installation, and it leaves a transcript that is of the protocol, with its own outcome. -/
theorem exists_conversation (engine : Engine σ ι) (options : InstallOptions) (policy : Policy)
    (state : σ) :
    ∃ log, policy.install engine.transcribed options (state, []) =
        ((policy.install engine options state).1, (policy.install engine options state).2, log) ∧
      Conversation options policy.filters log (policy.install engine options state).1 := by
  obtain ⟨n, ended⟩ := Stage.exists_iterate_eq_install engine options policy state
  obtain ⟨log, reached, said⟩ := Stage.iterate_transcribed engine options policy n state
  have outcome := Stage.outcome_iterate engine.transcribed options policy n .opening (state, [])
  rw [ended] at reached said
  rw [reached] at outcome
  exact ⟨log, outcome.symm, said⟩

end Transcripts

end TrafficPolicy
