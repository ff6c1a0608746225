import TrafficPolicy.Builder

/-!
# What compiling gives

The outcome of compiling a program without the lookups that were made for it, directive by
directive.  Two programs that differ only in how paths are spelled compile to the same policy, if
the resolver does not see the difference.
-/

namespace TrafficPolicy

theorem bind_eq_ok {ε α β : Type} {first : Except ε α} {next : α → Except ε β} {value : β} :
    (first >>= next) = .ok value ↔ ∃ middle, first = .ok middle ∧ next middle = .ok value := by
  cases first <;> simp [bind, Except.bind]

theorem bind_eq_error {ε α β : Type} {first : Except ε α} {next : α → Except ε β} {error : ε} :
    (first >>= next) = .error error ↔
      first = .error error ∨ ∃ middle, first = .ok middle ∧ next middle = .error error := by
  cases first <;> simp [bind, Except.bind]

theorem exists_eq_ok {ε α : Type} {result : Except ε α} (ok : result.isOk = true) :
    ∃ value, result = .ok value := by
  cases result with
  | error error => cases ok
  | ok value => exact ⟨value, rfl⟩

theorem toOption_eq_some {ε α : Type} {result : Except ε α} {value : α} :
    result.toOption = some value ↔ result = .ok value := by
  cases result <;> simp [Except.toOption]

/-- The error of an outcome that has one. -/
def refusal? {α : Type} : Except PolicyError α → Option PolicyError
  | .ok _ => none
  | .error error => some error

section Refusals

variable {α : Type} {outcome : Except PolicyError α} {error : PolicyError}

theorem refusal?_eq_some_iff : refusal? outcome = some error ↔ outcome = .error error := by
  cases outcome <;> simp [refusal?]

theorem refusal?_eq_none_iff : refusal? outcome = none ↔ ∃ value, outcome = .ok value := by
  cases outcome <;> simp [refusal?]

end Refusals

namespace Looked

variable {α β : Type}

@[simp]
theorem result_bind (looked : Looked α) (next : α → Looked β) :
    (looked >>= next).result = looked.result >>= fun value => (next value).result := by
  change (looked.bind next).result = _
  rw [Looked.bind]
  cases looked.result <;> rfl

theorem lookups_bind_of_error {looked : Looked α} {error : PolicyError}
    (failed : looked.result = .error error) (next : α → Looked β) :
    (looked >>= next).lookups = looked.lookups := by
  change (looked.bind next).lookups = _
  rw [Looked.bind, failed]

theorem lookups_bind_of_ok {looked : Looked α} {value : α} (is : looked.result = .ok value)
    (next : α → Looked β) :
    (looked >>= next).lookups = looked.lookups ++ (next value).lookups := by
  change (looked.bind next).lookups = _
  rw [Looked.bind, is]

end Looked

/-- A directive that compiles keeps its kind, action and weight, beside its filters. -/
theorem Directive.result_compile (resolver : Resolver) (directive : Directive)
    (weight : Assigned) :
    (directive.compile resolver weight).result =
      (directive.expand resolver weight).result >>= fun filters =>
        .ok ⟨directive.kind.name, directive.action, weight, filters⟩ := by
  rw [Directive.compile, Looked.result_bind]
  rfl

namespace Policy

theorem result_compileAll_cons (resolver : Resolver) (directive : Directive) (weight : Assigned)
    (rest : List (Directive × Assigned)) :
    (compileAll resolver ((directive, weight) :: rest)).result =
      (directive.compile resolver weight).result >>= fun first =>
        (compileAll resolver rest).result >>= fun others => .ok (first :: others) := by
  rw [compileAll, Looked.result_bind]
  simp only [Looked.result_bind]
  rfl

/-- The lookups for a program are those for its first directive, and if that compiles, those for
the others. -/
theorem lookups_compileAll_cons (resolver : Resolver) (directive : Directive) (weight : Assigned)
    (rest : List (Directive × Assigned)) :
    (compileAll resolver ((directive, weight) :: rest)).lookups =
      (directive.compile resolver weight).lookups ++
        match (directive.compile resolver weight).result with
        | .error _ => []
        | .ok _ => (compileAll resolver rest).lookups := by
  rw [compileAll]
  cases compiled : (directive.compile resolver weight).result with
  | error error => rw [Looked.lookups_bind_of_error compiled, List.append_nil]
  | ok first =>
    rw [Looked.lookups_bind_of_ok compiled]
    cases others : (compileAll resolver rest).result with
    | error error => rw [Looked.lookups_bind_of_error others]
    | ok others' =>
      rw [Looked.lookups_bind_of_ok others]
      exact congrArg _ (List.append_nil _)

theorem result_compile (resolver : Resolver) (program : List Directive) :
    (compile resolver program).result =
      Assigned.ofProgram program >>= fun weights =>
        (compileAll resolver (program.zip weights)).result >>= fun directives =>
          .ok ⟨directives⟩ := by
  rw [compile, Looked.result_bind]
  simp only [Looked.result_bind]
  rfl

/-- The lookups for a program that gets its weights are those for its directives. -/
theorem lookups_compile (resolver : Resolver) {program : List Directive}
    {weights : List Assigned} (weighed : Assigned.ofProgram program = .ok weights) :
    (compile resolver program).lookups = (compileAll resolver (program.zip weights)).lookups := by
  rw [compile, Looked.lookups_bind_of_ok weighed]
  cases compiled : (compileAll resolver (program.zip weights)).result with
  | error error =>
    rw [Looked.lookups_bind_of_error compiled]
    rfl
  | ok directives =>
    rw [Looked.lookups_bind_of_ok compiled]
    exact List.append_nil _

/-- The compiled forms of a program are those of its first directive and of the others. -/
theorem compileAll_cons_eq_ok {resolver : Resolver} {directive : Directive} {weight : Assigned}
    {rest : List (Directive × Assigned)} {compiled : List CompiledDirective} :
    (compileAll resolver ((directive, weight) :: rest)).result = .ok compiled ↔
      ∃ filters others, (directive.expand resolver weight).result = .ok filters ∧
        (compileAll resolver rest).result = .ok others ∧
        compiled = ⟨directive.kind.name, directive.action, weight, filters⟩ :: others := by
  rw [result_compileAll_cons, Directive.result_compile]
  simp only [bind_eq_ok]
  grind

/-- Directives do not compile just if one of them cannot be expanded, and the first of these gives
the error. -/
theorem compileAll_eq_error_iff {resolver : Resolver} {entries : List (Directive × Assigned)}
    {error : PolicyError} :
    (compileAll resolver entries).result = .error error ↔
      entries.findSome? (fun entry => refusal? (entry.1.expand resolver entry.2).result) =
        some error := by
  induction entries with
  | nil => exact ⟨nofun, nofun⟩
  | cons entry rest ih =>
    obtain ⟨directive, weight⟩ := entry
    rw [result_compileAll_cons, Directive.result_compile, List.findSome?_cons]
    cases expanded : (directive.expand resolver weight).result with
    | error other =>
      change Except.error other = Except.error error ↔ some other = some error
      rw [Except.error.injEq, Option.some.injEq]
    | ok filters =>
      change ((compileAll resolver rest).result >>= fun others => Except.ok (_ :: others)) =
        Except.error error ↔ rest.findSome? _ = some error
      rw [← ih, bind_eq_error]
      refine ⟨fun failed => ?_, Or.inl⟩
      rcases failed with others | ⟨_, _, nothing⟩
      · exact others
      · cases nothing

theorem length_compileAll {resolver : Resolver} {entries : List (Directive × Assigned)}
    {compiled : List CompiledDirective}
    (given : (compileAll resolver entries).result = .ok compiled) :
    compiled.length = entries.length := by
  induction entries generalizing compiled with
  | nil =>
    cases given
    rfl
  | cons entry rest ih =>
    obtain ⟨filters, others, _, after, rfl⟩ := compileAll_cons_eq_ok.mp given
    rw [List.length_cons, List.length_cons, ih after]

theorem compile_eq_ok {resolver : Resolver} {program : List Directive} {policy : Policy} :
    (compile resolver program).result = .ok policy ↔
      ∃ weights, Assigned.ofProgram program = .ok weights ∧
        (compileAll resolver (program.zip weights)).result = .ok policy.directives := by
  rw [result_compile]
  simp only [bind_eq_ok]
  grind

end Policy

end TrafficPolicy
