import Mathlib.Data.List.Basic
import TrafficPolicy.Proofs.Policy.Weights

/-!
# The lookups of a program

Only programs and hosts are looked up, each where a directive names it (`Kind.lookup?`).  The
directives are tried one after the other, up to the first that cannot be expanded, and the lookups
are those of the directives that are tried (`Policy.lookups_compileAll`).

What compiling gives depends on a resolver through the answers to these lookups alone.  A resolver
that gives the same answers is asked the same (`Builder.compile_of_agrees`).
-/

namespace TrafficPolicy

/-- What is looked up for a directive of a kind. -/
def Kind.lookup? : Kind → Option Lookup
  | application path => some (.app path)
  | hostName name => some (.host name)
  | _ => none

namespace Resolver

/-- A lookup is answered with an error. -/
def Refuses (resolver : Resolver) (error : PolicyError) : Lookup → Prop
  | .app path => resolver.appId path = .error error
  | .host name => resolver.hostAddresses name = .error error

/-- Two resolvers give the same answer to a lookup. -/
def Agrees (resolver other : Resolver) : Lookup → Prop
  | .app path => other.appId path = resolver.appId path
  | .host name => other.hostAddresses name = resolver.hostAddresses name

end Resolver

namespace Looked

variable {α β : Type} {looked : Looked α} {next other : α → Looked β}

theorem lookups_bind_of_silent (silent : ∀ value, (next value).lookups = []) :
    (looked >>= next).lookups = looked.lookups := by
  cases outcome : looked.result with
  | error error => exact lookups_bind_of_error outcome next
  | ok value => rw [lookups_bind_of_ok outcome, silent, List.append_nil]

/-- What would come next plays a part only for the value that there is. -/
theorem bind_congr_of_ok (same : ∀ value, looked.result = .ok value → next value = other value) :
    (looked >>= next) = (looked >>= other) := by
  change looked.bind next = looked.bind other
  rw [Looked.bind, Looked.bind]
  cases outcome : looked.result with
  | error error => rfl
  | ok value => simp only [same value outcome]

end Looked

/-! ## Directives -/

namespace Directive

variable {resolver other : Resolver}

theorem lookups_expand (resolver : Resolver) (directive : Directive) (assigned : Assigned) :
    (directive.expand resolver assigned).lookups = directive.kind.lookup?.toList := by
  obtain ⟨action, scope, kind, hint⟩ := directive
  cases kind with
  | nameResolution servers =>
    cases action with
    | block => rfl
    | allow =>
      simp only [expand]
      cases assigned.deny <;> rfl
  | application path =>
    cases action <;> exact Looked.lookups_bind_of_silent fun _ => rfl
  | hostName name =>
    cases action <;>
      exact Looked.lookups_bind_of_silent fun _ => Looked.lookups_bind_of_silent fun _ => rfl
  | _ => cases action <;> rfl

theorem lookups_compile (resolver : Resolver) (directive : Directive) (assigned : Assigned) :
    (directive.compile resolver assigned).lookups = directive.kind.lookup?.toList := by
  rw [← lookups_expand resolver directive assigned]
  exact Looked.lookups_bind_of_silent fun _ => rfl

theorem expand_of_agrees (directive : Directive) (assigned : Assigned)
    (agrees : ∀ asked ∈ directive.kind.lookup?, resolver.Agrees other asked) :
    directive.expand other assigned = directive.expand resolver assigned := by
  obtain ⟨action, scope, kind, hint⟩ := directive
  cases kind with
  | application path =>
    have same : other.appId path = resolver.appId path := agrees _ rfl
    cases action <;> simp only [expand, Looked.appId, same]
  | hostName name =>
    have same : other.hostAddresses name = resolver.hostAddresses name := agrees _ rfl
    cases action <;> simp only [expand, Looked.hostAddresses, same]
  | _ => cases action <;> rfl

end Directive

/-! ## Programs -/

/-- Whether a directive can be expanded with its weights. -/
def Directive.expands (resolver : Resolver) (entry : Directive × Assigned) : Bool :=
  (entry.1.expand resolver entry.2).result.isOk

namespace Policy

variable {resolver other : Resolver} {entries : List (Directive × Assigned)}

/-- The directives that are tried: those up to the first that cannot be expanded, and that one. -/
def tried (resolver : Resolver) (entries : List (Directive × Assigned)) :
    List (Directive × Assigned) :=
  entries.takeWhile (Directive.expands resolver) ++
    (entries.dropWhile (Directive.expands resolver)).take 1

theorem tried_cons (resolver : Resolver) (entry : Directive × Assigned)
    (rest : List (Directive × Assigned)) :
    tried resolver (entry :: rest) =
      entry :: if Directive.expands resolver entry then tried resolver rest else [] := by
  rw [tried, List.takeWhile_cons, List.dropWhile_cons]
  cases Directive.expands resolver entry <;> rfl

theorem lookups_compileAll (resolver : Resolver) (entries : List (Directive × Assigned)) :
    (compileAll resolver entries).lookups =
      (tried resolver entries).filterMap (·.1.kind.lookup?) := by
  induction entries with
  | nil => rfl
  | cons entry rest ih =>
    obtain ⟨directive, weight⟩ := entry
    rw [lookups_compileAll_cons, Directive.lookups_compile, Directive.result_compile, ih,
      tried_cons, Directive.expands, List.filterMap_eq_flatMap_toList,
      List.filterMap_eq_flatMap_toList, List.flatMap_cons]
    cases (directive.expand resolver weight).result <;> rfl

/-- A resolver that answers the lookups alike is asked the same, and the outcome is the same. -/
theorem compileAll_of_agrees
    (agrees : ∀ asked ∈ (compileAll resolver entries).lookups, resolver.Agrees other asked) :
    compileAll other entries = compileAll resolver entries := by
  induction entries with
  | nil => rfl
  | cons entry rest ih =>
    obtain ⟨directive, weight⟩ := entry
    rw [lookups_compileAll_cons, Directive.lookups_compile] at agrees
    have first : directive.compile other weight = directive.compile resolver weight := by
      rw [Directive.compile, Directive.compile, directive.expand_of_agrees weight]
      exact fun asked named => agrees asked (List.mem_append_left _ (Option.mem_toList.mpr named))
    rw [compileAll, compileAll, first]
    refine Looked.bind_congr_of_ok fun compiled is => ?_
    rw [is] at agrees
    rw [ih fun asked later => agrees asked (List.mem_append_right _ later)]

theorem compile_of_agrees {program : List Directive}
    (agrees : ∀ asked ∈ (compile resolver program).lookups, resolver.Agrees other asked) :
    compile other program = compile resolver program := by
  rw [compile, compile]
  refine Looked.bind_congr_of_ok fun weights weighed => ?_
  rw [lookups_compile resolver weighed] at agrees
  rw [compileAll_of_agrees agrees]

/-- Where the weights are refused, nothing is looked up. -/
theorem lookups_compile_of_error {program : List Directive} {error : PolicyError}
    (refused : Assigned.ofProgram program = .error error) :
    (compile resolver program).lookups = [] :=
  Looked.lookups_bind_of_error refused _

end Policy

namespace Builder

variable {builder : Builder} {resolver other : Resolver}

theorem compile_of_agrees
    (agrees : ∀ asked ∈ (builder.compile resolver).lookups, resolver.Agrees other asked) :
    builder.compile other = builder.compile resolver := by
  rw [compile] at agrees ⊢
  rw [compile]
  cases broken : builder.error with
  | some error => rfl
  | none =>
    simp only [broken] at agrees ⊢
    exact Policy.compile_of_agrees agrees

/-- The lookups that a policy needs, in order: those for the directives that are tried.  None is
needed if a call has failed or the weights do not suffice. -/
def needed (builder : Builder) (resolver : Resolver) : List Lookup :=
  match builder.error, Assigned.ofProgram builder.program with
  | none, .ok weights =>
    (Policy.tried resolver (builder.program.zip weights)).filterMap (·.1.kind.lookup?)
  | _, _ => []

theorem lookups_compile (builder : Builder) (resolver : Resolver) :
    (builder.compile resolver).lookups = builder.needed resolver := by
  rw [compile, needed]
  cases builder.error with
  | some error => rfl
  | none =>
    dsimp only
    cases weighed : Assigned.ofProgram builder.program with
    | error error => exact Policy.lookups_compile_of_error weighed
    | ok weights => rw [Policy.lookups_compile resolver weighed, Policy.lookups_compileAll]

end Builder

end TrafficPolicy
