import TrafficPolicy.Proofs.Policy.Collected
import TrafficPolicy.Proofs.Policy.Lookups

/-!
# What keeps a program from compiling

The checks that a directive passes when it is made leave little that can go wrong later.
`Directive.obstacle?` lists it, by kind and scope and by the answers of the resolver: with the
weights that a program gives it, an accepted directive is expanded unless it has an obstacle
(`Directive.refusal?_expand`).

So a program fails to compile for its weights or for the first obstacle in it
(`Policy.compile_eq_error_iff`).
-/

namespace TrafficPolicy

namespace Directive

variable {resolver : Resolver} {directive : Directive} {assigned : Assigned} {error : PolicyError}

/-- What keeps an accepted directive from being expanded: there is no name server for IPv6 alone, a
program or a host is not found, or the scope takes in none of the addresses of a host. -/
def obstacle? (resolver : Resolver) (directive : Directive) : Option PolicyError :=
  match directive.kind with
  | .nameResolution [] =>
    if directive.scope = .v6 then some (.invalidPolicy .noResolver) else none
  | .application path => refusal? (resolver.appId path)
  | .hostName name =>
    match resolver.hostAddresses name with
    | .error error => some error
    | .ok addresses =>
      if addresses.any directive.scope.admits then none
      else some (.resolutionFailed name (.nothingInScope directive.scope))
  | _ => none

theorem refusal?_effectiveResolvers (scope : Scope) (servers : List Address) :
    refusal? (Rules.effectiveResolvers scope servers) =
      if servers = [] ∧ scope = .v6 then some (.invalidPolicy .noResolver) else none := by
  cases servers with
  | cons server rest => rfl
  | nil => cases scope <;> rfl

theorem refusal?_hostAddresses (scope : Scope) (name : String) (addresses : List Address) :
    refusal? (hostAddresses scope name addresses) =
      if addresses.any scope.admits then none
      else some (.resolutionFailed name (.nothingInScope scope)) := by
  rw [hostAddresses]
  cases admitted : addresses.filter scope.admits with
  | nil =>
    have outside : addresses.any scope.admits = false := by
      rw [List.any_eq_false]
      exact List.filter_eq_nil_iff.mp admitted
    rw [outside]
    rfl
  | cons address rest =>
    have inside : address ∈ addresses.filter scope.admits := admitted ▸ List.mem_cons_self
    obtain ⟨member, admits⟩ := List.mem_filter.mp inside
    rw [if_pos (List.any_eq_true.mpr ⟨address, member, admits⟩)]
    rfl

/-- A value that is only put into another form keeps the error. -/
theorem refusal?_bind_ok {α β : Type} (outcome : Except PolicyError α) (form : α → β) :
    refusal? (outcome >>= fun value => Except.ok (form value)) = refusal? outcome := by
  cases outcome <;> rfl

/-- With weights that suit its kind, an accepted directive is expanded unless it has an
obstacle. -/
theorem refusal?_expand (accepted : directive.Accepted)
    (denies : directive.kind.isNameResolution = true →
      ∃ deny, assigned.deny = some deny ∧ deny < assigned.weight) :
    refusal? (directive.expand resolver assigned).result = directive.obstacle? resolver := by
  have supports := accepted.supports
  obtain ⟨action, scope, kind, hint⟩ := directive
  cases kind with
  | nameResolution servers =>
    obtain ⟨deny, is, below⟩ := denies rfl
    cases action with
    | block => cases supports
    | allow =>
      simp only [expand, is, Looked.ofExcept, Rules.nameResolution, if_pos below]
      refine (refusal?_bind_ok (Rules.effectiveResolvers scope servers) _).trans ?_
      rw [refusal?_effectiveResolvers]
      cases servers <;> simp [obstacle?]
  | application path =>
    have same : ∀ form : AppId → List Filter,
        refusal? (Looked.appId resolver path >>= fun id => pure (form id)).result =
          refusal? (resolver.appId path) := fun form => by
      rw [Looked.result_bind]
      exact refusal?_bind_ok (resolver.appId path) form
    cases action <;> exact same _
  | hostName name =>
    have same : ∀ form : List Address → List Filter,
        refusal? (Looked.hostAddresses resolver name >>= fun found =>
          Looked.ofExcept (hostAddresses scope name found) >>= fun admitted =>
            pure (form admitted)).result =
          obstacle? resolver ⟨action, scope, .hostName name, hint⟩ := fun form => by
      rw [Looked.result_bind]
      simp only [obstacle?, Looked.hostAddresses]
      cases resolver.hostAddresses name with
      | error error => rfl
      | ok found =>
        change refusal? (Looked.ofExcept (hostAddresses scope name found) >>= fun admitted =>
          pure (form admitted)).result = _
        rw [Looked.result_bind]
        exact (refusal?_bind_ok (hostAddresses scope name found) form).trans
          (refusal?_hostAddresses scope name found)
    cases action <;> exact same _
  | _ => cases action <;> first | rfl | cases supports

/-- An obstacle is a fault of the policy, a host without an address in scope, or what the resolver
answers. -/
theorem of_obstacle? (obstacle : directive.obstacle? resolver = some error) :
    error = .invalidPolicy .noResolver ∨
      (∃ name scope, error = .resolutionFailed name (.nothingInScope scope)) ∨
      ∃ asked ∈ directive.kind.lookup?, resolver.Refuses error asked := by
  obtain ⟨action, scope, kind, hint⟩ := directive
  cases kind with
  | nameResolution servers =>
    cases servers with
    | cons server rest => cases obstacle
    | nil =>
      simp only [obstacle?] at obstacle
      split at obstacle <;> cases obstacle
      exact Or.inl rfl
  | application path =>
    exact Or.inr (Or.inr ⟨.app path, rfl, refusal?_eq_some_iff.mp obstacle⟩)
  | hostName name =>
    simp only [obstacle?] at obstacle
    cases answer : resolver.hostAddresses name with
    | error refused =>
      rw [answer] at obstacle
      cases obstacle
      exact Or.inr (Or.inr ⟨.host name, rfl, answer⟩)
    | ok addresses =>
      simp only [answer] at obstacle
      split at obstacle <;> cases obstacle
      exact Or.inr (Or.inl ⟨name, scope, rfl⟩)
  | _ => cases obstacle

end Directive

namespace Policy

variable {program : List Directive} {resolver : Resolver} {error : PolicyError}

/-- What is found in a program does not depend on its weights, if no weight of an entry plays a
part. -/
theorem findSome?_zip {weights : List Assigned} {found : Directive × Assigned → Option PolicyError}
    {said : Directive → Option PolicyError} (long : weights.length = program.length)
    (same : ∀ entry ∈ program.zip weights, found entry = said entry.1) :
    (program.zip weights).findSome? found = program.findSome? said := by
  induction program generalizing weights with
  | nil => rfl
  | cons directive rest ih =>
    obtain ⟨weight, others, rfl⟩ := List.exists_cons_of_length_eq_add_one long
    rw [List.zip_cons_cons, List.findSome?_cons, List.findSome?_cons,
      same (directive, weight) List.mem_cons_self,
      ih (Nat.succ.inj long) fun entry member => same entry (List.mem_cons_of_mem _ member)]

/-- With its weights, an accepted program fails for the first obstacle in it. -/
theorem compileAll_eq_error_of_accepted
    (accepted : ∀ directive ∈ program, directive.Accepted) {weights : List Assigned}
    (weighed : Assigned.ofProgram program = .ok weights) :
    (compileAll resolver (program.zip weights)).result = .error error ↔
      program.findSome? (·.obstacle? resolver) = some error := by
  rw [compileAll_eq_error_iff, findSome?_zip (Assigned.length_ofProgramFrom weighed)]
  intro entry member
  obtain ⟨index, cursor, given⟩ := Assigned.exists_ofDirective_of_mem_zip weighed member
  exact Directive.refusal?_expand (accepted _ (List.of_mem_zip member).1)
    (Assigned.exists_deny given)

/-- An accepted program fails for its weights, or for the first obstacle in it. -/
theorem result_eq_error_of_accepted (accepted : ∀ directive ∈ program, directive.Accepted) :
    (compile resolver program).result = .error error ↔
      Assigned.ofProgram program = .error error ∨
        (∃ weights, Assigned.ofProgram program = .ok weights) ∧
          program.findSome? (·.obstacle? resolver) = some error := by
  rw [result_compile, bind_eq_error]
  refine or_congr_right ⟨?_, ?_⟩
  · rintro ⟨weights, weighed, failed⟩
    rcases bind_eq_error.mp failed with first | ⟨_, _, nothing⟩
    · exact ⟨⟨weights, weighed⟩, (compileAll_eq_error_of_accepted accepted weighed).mp first⟩
    · cases nothing
  · rintro ⟨⟨weights, weighed⟩, first⟩
    exact ⟨weights, weighed, bind_eq_error.mpr
      (Or.inl ((compileAll_eq_error_of_accepted accepted weighed).mpr first))⟩

/-- Compiling an accepted program fails with an error just if that is the error of its weights, or
the program has its weights and the error is the first obstacle in it.  So the only errors are
faults of the policy, hosts without an address in scope, and those of the resolver itself.  All
directives on name resolution have a deny weight below their weight, and the built-in networks are
well-formed IPv4 networks. -/
theorem compile_eq_error_iff (accepted : ∀ directive ∈ program, directive.Accepted)
    (resolver : Resolver) :
    (∀ error, (compile resolver program).result = .error error ↔
        Assigned.ofProgram program = .error error ∨
          (∃ weights, Assigned.ofProgram program = .ok weights) ∧
            program.findSome? (·.obstacle? resolver) = some error) ∧
      (∀ error, (compile resolver program).result = .error error →
        (∃ fault, error = .invalidPolicy fault) ∨
          (∃ name scope, error = .resolutionFailed name (.nothingInScope scope)) ∨
          ∃ directive ∈ program, ∃ asked ∈ directive.kind.lookup?,
            resolver.Refuses error asked) ∧
      (∀ weights, Assigned.ofProgram program = .ok weights →
        ∀ entry ∈ program.zip weights, entry.1.kind.isNameResolution = true →
          ∃ deny, entry.2.deny = some deny ∧ deny < entry.2.weight) ∧
      ∀ network ∈ Rules.lanNetworks ++ [Rules.tunnelNetwork], network.family = .v4 ∧
        Network.of? network.address network.length = some network := by
  refine ⟨fun error => result_eq_error_of_accepted accepted, fun error failed => ?_,
    fun weights weighed entry member names => ?_, by decide⟩
  · rcases (result_eq_error_of_accepted accepted).mp failed with refused | ⟨_, first⟩
    · exact Or.inl (Assigned.exists_fault_of_ofProgramFrom refused)
    · obtain ⟨directive, member, obstacle⟩ := List.exists_of_findSome?_eq_some first
      rcases Directive.of_obstacle? obstacle with fault | outside | refused
      · exact Or.inl ⟨_, fault⟩
      · exact Or.inr (Or.inl outside)
      · exact Or.inr (Or.inr ⟨directive, member, refused⟩)
  · obtain ⟨index, cursor, given⟩ := Assigned.exists_ofDirective_of_mem_zip weighed member
    exact Assigned.exists_deny given names

/-- Of two directives that cannot be expanded, the first gives the error. -/
theorem compile_unknown_host_first :
    let resolver := ({} : LookupTable).resolver
    let program : List Directive :=
      [⟨.allow, .both, .hostName "example.org", .implicit⟩,
        ⟨.allow, .v6, .nameResolution [], .implicit⟩]
    (∀ directive ∈ program, directive.Accepted) ∧
      (compile resolver program).result =
        .error (.resolutionFailed "example.org" .unknownHost) ∧
      (compile resolver program.reverse).result = .error (.invalidPolicy .noResolver) := by
  intro resolver program
  have accepted : ∀ directive ∈ program, directive.Accepted := by
    rw [List.forall_mem_cons, List.forall_mem_singleton]
    exact ⟨⟨"host", { action := .allow }, .hostName "example.org", by decide +kernel⟩,
      ⟨"domain_name_system", { action := .allow, scope := .v6 }, .nameResolution [], rfl⟩⟩
  have reversed : ∀ directive ∈ program.reverse, directive.Accepted :=
    fun directive member => accepted directive (List.mem_reverse.mp member)
  refine ⟨accepted, ?_, ?_⟩
  · exact ((compile_eq_error_iff accepted resolver).1 _).mpr
      (Or.inr ⟨⟨[⟨0, none⟩, ⟨2, some 1⟩], by decide +kernel⟩, by decide +kernel⟩)
  · exact ((compile_eq_error_iff reversed resolver).1 _).mpr
      (Or.inr ⟨⟨[⟨1, some 0⟩, ⟨2, none⟩], by decide +kernel⟩, by decide +kernel⟩)

end Policy

end TrafficPolicy
