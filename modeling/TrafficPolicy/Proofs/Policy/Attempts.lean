import TrafficPolicy.Builder

/-!
# Builders as folds

What the calls on a builder ask for can be listed without a builder: each call stands in the
context that the modifiers before it leave (`Context.after`) and asks for one directive for each of
its values (`Statement.attempts`).

A builder takes up these attempts one after the other (`Builder.run_eq`).  `Builder.attempt` keeps
the directives until the first attempt fails and nothing after it, so the list alone says what is
built (`Builder.run_of_attempts`).
-/

namespace TrafficPolicy

/-! ## What calls ask for -/

/-- The context of the calls after a call. -/
def Context.after (context : Context) : Statement → Context
  | .block => { context with action := .block }
  | .allow => { context with action := .allow }
  | .scope scope => { context with scope }
  | .weight hint => { context with weight := hint }
  | _ => context

namespace Statement

/-- How a call is named in errors, and the kinds that it asks for, one for each of its values.
Modifiers ask for nothing. -/
def request? : Statement → Option (String × List Kind)
  | .block | .allow | .scope _ | .weight _ => none
  | .all => some ("all", [.allTraffic])
  | .localhost => some ("localhost", [.loopback])
  | .localAreaNetwork => some ("local_area_network", [.localAreaNetwork])
  | .nameResolution => some ("domain_name_system", [.nameResolution []])
  | .nameResolutionVia resolvers =>
    some ("domain_name_system_via", [.nameResolution (resolvers.filter (!·.isUnspecified))])
  | .application paths => some ("application", paths.map .application)
  | .peerName names => some ("peer_name", names.map .peerName)
  | .host names => some ("host", names.map .hostName)
  | .address addresses => some ("ip_address", [.addresses addresses])
  | .ikev2 => some ("ikev2", [.ikev2])
  | .tcpPort ports => some ("tcp_port", ports.map .tcpPort)
  | .udpPort ports => some ("udp_port", ports.map .udpPort)
  | .localSubnet networks => some ("local_subnet", networks.map .localSubnet)
  | .remoteSubnet networks => some ("remote_subnet", networks.map .remoteSubnet)
  | .interface indexes => some ("network_interface", indexes.map .interface)

/-- What becomes of each directive that a call asks for.  To ask for none is a mistake. -/
def outcomes (context : Context) (call : String) : List Kind → List (Except PolicyError Directive)
  | [] => [.error (.invalidArgument call .noValues)]
  | kinds => kinds.map (Directive.make call context)

/-- What becomes of each directive that a statement asks for in a context. -/
def attempts (context : Context) (statement : Statement) : List (Except PolicyError Directive) :=
  match statement.request? with
  | none => []
  | some (call, kinds) => outcomes context call kinds

/-- What becomes of each directive that statements ask for, the first of them in a context. -/
def attemptsFrom (context : Context) : List Statement → List (Except PolicyError Directive)
  | [] => []
  | statement :: rest =>
    statement.attempts context ++ attemptsFrom (context.after statement) rest

end Statement

/-! ## How a builder takes them up -/

namespace Builder

/-- Keeps a directive, or the error in its place; after an error nothing is kept. -/
def attempt (builder : Builder) (outcome : Except PolicyError Directive) : Builder :=
  match builder.error with
  | some _ => builder
  | none =>
    match outcome with
    | .ok directive => { builder with program := builder.program ++ [directive] }
    | .error error => { builder with error := some error }

section Attempts

variable {builder : Builder}

theorem attempt_of_error {error : PolicyError} (failed : builder.error = some error)
    (outcome : Except PolicyError Directive) : builder.attempt outcome = builder := by
  simp only [attempt, failed]

theorem attempt_ok (clean : builder.error = none) (directive : Directive) :
    builder.attempt (.ok directive) =
      { builder with program := builder.program ++ [directive] } := by
  simp only [attempt, clean]

theorem attempt_error (clean : builder.error = none) (error : PolicyError) :
    builder.attempt (.error error) = { builder with error := some error } := by
  simp only [attempt, clean]

theorem context_attempt (builder : Builder) (outcome : Except PolicyError Directive) :
    (builder.attempt outcome).context = builder.context := by
  unfold attempt
  split
  · rfl
  · split <;> rfl

/-- The context has no part in how an attempt is taken up. -/
theorem attempt_withContext (builder : Builder) (context : Context)
    (outcome : Except PolicyError Directive) :
    attempt { builder with context } outcome = { builder.attempt outcome with context } := by
  unfold attempt
  dsimp only
  split
  · rfl
  · split <;> rfl

theorem foldl_attempt_withContext (builder : Builder) (context : Context)
    (outcomes : List (Except PolicyError Directive)) :
    outcomes.foldl attempt { builder with context } =
      { outcomes.foldl attempt builder with context } := by
  induction outcomes generalizing builder with
  | nil => rfl
  | cons outcome rest ih =>
    rw [List.foldl_cons, List.foldl_cons, attempt_withContext, ih]

theorem foldl_attempt_of_error {error : PolicyError} (failed : builder.error = some error)
    (outcomes : List (Except PolicyError Directive)) :
    outcomes.foldl attempt builder = builder := by
  induction outcomes with
  | nil => rfl
  | cons outcome rest ih => rw [List.foldl_cons, attempt_of_error failed, ih]

/-- Without an error so far, a builder keeps all directives, or those before the first error and
that error. -/
theorem foldl_attempt_of_clean (clean : builder.error = none)
    (outcomes : List (Except PolicyError Directive)) :
    ∃ made, (outcomes.foldl attempt builder).program = builder.program ++ made ∧
      ((outcomes = made.map .ok ∧ (outcomes.foldl attempt builder).error = none) ∨
        ∃ error rest, outcomes = made.map .ok ++ .error error :: rest ∧
          (outcomes.foldl attempt builder).error = some error) := by
  induction outcomes generalizing builder with
  | nil => exact ⟨[], (List.append_nil _).symm, Or.inl ⟨rfl, clean⟩⟩
  | cons outcome rest ih =>
    rw [List.foldl_cons]
    cases outcome with
    | error error =>
      rw [attempt_error clean, foldl_attempt_of_error rfl]
      exact ⟨[], (List.append_nil _).symm, Or.inr ⟨error, rest, rfl, rfl⟩⟩
    | ok directive =>
      rw [attempt_ok clean]
      let kept : Builder := { builder with program := builder.program ++ [directive] }
      obtain ⟨made, program, ways⟩ := @ih kept clean
      refine ⟨directive :: made, ?_, ?_⟩
      · rw [program, List.append_assoc, List.singleton_append]
      · rcases ways with ⟨all, sound⟩ | ⟨error, others, split, failed⟩
        · exact Or.inl ⟨congrArg (List.cons (.ok directive)) all, sound⟩
        · exact Or.inr ⟨error, others, congrArg (List.cons (.ok directive)) split, failed⟩

end Attempts

theorem push_eq (builder : Builder) (call : String) (kind : Kind) :
    builder.push call kind = builder.attempt (Directive.make call builder.context kind) :=
  rfl

theorem foldl_push_eq (builder : Builder) (call : String) (kinds : List Kind) :
    kinds.foldl (fun builder kind => builder.push call kind) builder =
      (kinds.map (Directive.make call builder.context)).foldl attempt builder := by
  induction kinds generalizing builder with
  | nil => rfl
  | cons kind rest ih =>
    -- The others are made in the same context as the first.
    rw [List.foldl_cons, List.map_cons, List.foldl_cons, ih, push_eq, context_attempt]

theorem pushEach_eq (builder : Builder) (call : String) (kinds : List Kind) :
    builder.pushEach call kinds =
      (Statement.outcomes builder.context call kinds).foldl attempt builder := by
  cases kinds with
  | cons kind rest => exact foldl_push_eq builder call (kind :: rest)
  | nil =>
    change { builder with error := builder.error.or _ } = builder.attempt (.error _)
    cases failed : builder.error with
    | some error =>
      rw [attempt_of_error failed, Option.some_or, ← failed]
    | none => exact (attempt_error failed _).symm

/-- What a call asks for is taken up in the context before it, and the next call is in the context
after it. -/
theorem call_eq (builder : Builder) (statement : Statement) :
    builder.call statement =
      { (statement.attempts builder.context).foldl attempt builder with
        context := builder.context.after statement } := by
  have kept : ∀ outcomes : List (Except PolicyError Directive),
      outcomes.foldl attempt builder =
        { outcomes.foldl attempt builder with context := builder.context } :=
    fun outcomes => foldl_attempt_withContext builder builder.context outcomes
  cases statement with
  | block | allow | scope | weight => rfl
  | all | localhost | localAreaNetwork | nameResolution | nameResolutionVia | address | ikev2 =>
    exact (push_eq builder _ _).trans (kept [_])
  | application | peerName | host | tcpPort | udpPort | localSubnet | remoteSubnet | interface =>
    exact (pushEach_eq builder _ _).trans (kept _)

/-- A builder takes up what the calls ask for, one attempt after the other. -/
theorem run_eq (builder : Builder) (statements : List Statement) :
    builder.run statements =
      { (Statement.attemptsFrom builder.context statements).foldl attempt builder with
        context := statements.foldl Context.after builder.context } := by
  induction statements generalizing builder with
  | nil => rfl
  | cons statement rest ih =>
    change (builder.call statement).run rest = _
    rw [ih, call_eq, Statement.attemptsFrom, List.foldl_append, foldl_attempt_withContext]
    rfl

/-! ## What is built -/

/-- What the calls ask for says what they build.  The program has the directives before the first
attempt that failed, be it for an earlier value of the same call.  The error of that attempt is
what compiling comes to, and nothing is looked up for it.  If no attempt failed, all directives are
compiled. -/
theorem run_of_attempts (statements : List Statement) :
    let attempts := Statement.attemptsFrom {} statements
    let built := Builder.empty.run statements
    (attempts = built.program.map .ok ∧
        ∀ resolver, built.compile resolver = Policy.compile resolver built.program) ∨
      ∃ error rest, attempts = built.program.map .ok ++ .error error :: rest ∧
        ∀ resolver, built.compile resolver = ⟨[], .error error⟩ := by
  intro attempts built
  have run : built = _ := run_eq Builder.empty statements
  have untouched : empty.error = none := rfl
  obtain ⟨made, program, ways⟩ := foldl_attempt_of_clean untouched attempts
  have collected : built.program = made := by
    rw [run]
    exact program
  rw [collected]
  rcases ways with ⟨all, sound⟩ | ⟨error, rest, split, failed⟩
  · refine Or.inl ⟨all, fun resolver => ?_⟩
    have clean : built.error = none := by
      rw [run]
      exact sound
    rw [compile, clean, ← collected]
  · refine Or.inr ⟨error, rest, split, fun resolver => ?_⟩
    have broken : built.error = some error := by
      rw [run]
      exact failed
    rw [compile, broken]
    rfl

/-- The second port is refused; no later call takes that back or adds to it. -/
example :
    let built := Builder.empty.run
      [.allow, .localhost, .tcpPort [443, 0, 8443], .weight (.fixed 9), .host [], .ikev2]
    built.program.map (·.kind) = [.loopback, .tcpPort 443] ∧
      built.error = some (.invalidArgument "tcp_port" .portZero) := by
  decide

end Builder

end TrafficPolicy
