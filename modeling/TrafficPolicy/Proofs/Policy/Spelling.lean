import Mathlib.Data.List.Forall2
import TrafficPolicy.Proofs.Policy.Compile
import TrafficPolicy.Settings

/-!
# The spelling of paths

Settings are compared by the components of their paths.  Settings that ask for the same compile to
the same policy (`Settings.compile_ok_of_same`), as long as the resolver tells no two spellings
of a path apart.
-/

namespace TrafficPolicy

/-- The resolver knows a program by every spelling of its path, or by none. -/
def Resolver.Uniform (resolver : Resolver) : Prop :=
  ∀ path other : Path, path.components = other.components →
    ∀ id, resolver.appId path = .ok id → resolver.appId other = .ok id

theorem LookupTable.uniform (table : LookupTable) : table.resolver.Uniform := by
  intro path other same id known
  have found : (table.apps.find? fun entry => entry.1.same path) =
      table.apps.find? fun entry => entry.1.same other := by
    simp only [Path.same, same]
  simp only [LookupTable.resolver, LookupTable.appId, found] at known ⊢
  cases entry : table.apps.find? fun entry => entry.1.same other with
  | none =>
    rw [entry] at known
    cases known
  | some _ =>
    rw [entry] at known
    exact known

namespace Path

theorem split_ne_nil (bytes : List UInt8) : split bytes ≠ [] := by
  induction bytes with
  | nil => simp [split]
  | cons byte bytes ih =>
    rw [split]
    split
    · simp
    · split <;> simp

/-- Only a path without bytes has no components. -/
theorem components_eq_nil_iff (path : Path) : path.components = [] ↔ path.isEmpty = true := by
  obtain ⟨bytes⟩ := path
  cases bytes with
  | nil => simp [components, isEmpty, isAbsolute, split, componentOf?, dot]
  | cons byte bytes =>
    simp only [isEmpty, List.isEmpty_cons, Bool.false_eq_true, iff_false]
    by_cases root : byte = slash
    · simp [components, isAbsolute, root]
    · obtain ⟨name, names, rest⟩ := List.exists_cons_of_ne_nil (split_ne_nil bytes)
      have first : split (byte :: bytes) = (byte :: name) :: names := by
        rw [split, rest]
        simp [root]
      by_cases current : byte :: name = [dot]
      · simp [components, isAbsolute, root, first, current]
      · have part : componentOf? (byte :: name) ≠ none := by
          rw [componentOf?, if_neg (by simp [current])]
          split <;> simp
        obtain ⟨component, eq⟩ := Option.ne_none_iff_exists'.mp part
        simp [components, first, eq]

theorem isEmpty_eq_of_components {path other : Path} (same : path.components = other.components) :
    path.isEmpty = other.isEmpty := by
  rw [Bool.eq_iff_iff, ← components_eq_nil_iff, ← components_eq_nil_iff, same]

end Path

/-! ## Directives that differ in spelling -/

/-- Kinds that differ at most in the spelling of a path. -/
inductive Kind.Alike : Kind → Kind → Prop
  | refl (kind : Kind) : Alike kind kind
  | application {path other : Path} :
    path.components = other.components → Alike (.application path) (.application other)

/-- Directives that differ at most in the spelling of a path. -/
structure Directive.Alike (directive other : Directive) : Prop where
  action : directive.action = other.action
  scope : directive.scope = other.scope
  weight : directive.weight = other.weight
  kind : directive.kind.Alike other.kind

/-- Builders that differ at most in the spelling of paths. -/
structure Builder.Alike (builder other : Builder) : Prop where
  context : builder.context = other.context
  error : builder.error = other.error
  program : List.Forall₂ Directive.Alike builder.program other.program

/-- A kind can be made a directive in every spelling or in none. -/
theorem Directive.make_alike (call : String) (context : Context) {kind other : Kind}
    (alike : kind.Alike other) :
    (∃ error, make call context kind = .error error ∧ make call context other = .error error) ∨
    ∃ first second, make call context kind = .ok first ∧ make call context other = .ok second ∧
      first.Alike second := by
  cases alike with
  | refl =>
    cases made : make call context kind with
    | error error => exact Or.inl ⟨error, rfl, rfl⟩
    | ok directive => exact Or.inr ⟨directive, directive, rfl, rfl, rfl, rfl, rfl, .refl _⟩
  | @application path other same =>
    have empty := Path.isEmpty_eq_of_components same
    cases emptiness : path.isEmpty with
    | true =>
      refine Or.inl ⟨.invalidArgument call .emptyPath, ?_, ?_⟩
      · simp [make, Kind.supports, Kind.isIPv4Only, Kind.fault?, emptiness]
      · simp [make, Kind.supports, Kind.isIPv4Only, Kind.fault?, ← empty, emptiness]
    | false =>
      refine Or.inr ⟨⟨context.action, context.scope, .application path, context.weight⟩,
        ⟨context.action, context.scope, .application other, context.weight⟩, ?_, ?_,
        rfl, rfl, rfl, .application same⟩
      · simp [make, Kind.supports, Kind.isIPv4Only, Kind.fault?, emptiness]
      · simp [make, Kind.supports, Kind.isIPv4Only, Kind.fault?, ← empty, emptiness]

namespace Builder

variable {builder other : Builder}

theorem Alike.push (alike : builder.Alike other) (call : String) {kind spelling : Kind}
    (same : kind.Alike spelling) : (builder.push call kind).Alike (other.push call spelling) := by
  obtain ⟨context, error, program⟩ := alike
  cases broken : other.error with
  | some _ =>
    simp only [Builder.push, error, broken]
    exact ⟨context, error, program⟩
  | none =>
    rcases Directive.make_alike call other.context same with
      ⟨_, left, right⟩ | ⟨first, second, left, right, pair⟩
    · simp only [Builder.push, error, broken, context, left, right]
      exact ⟨rfl, rfl, program⟩
    · simp only [Builder.push, error, broken, context, left, right]
      exact ⟨rfl, rfl, List.rel_append program (.cons pair .nil)⟩

theorem Alike.foldl_push {kinds spellings : List Kind} (call : String)
    (same : List.Forall₂ Kind.Alike kinds spellings) (alike : builder.Alike other) :
    (kinds.foldl (fun builder kind => builder.push call kind) builder).Alike
      (spellings.foldl (fun builder kind => builder.push call kind) other) := by
  induction same generalizing builder other with
  | nil => exact alike
  | cons first _ ih => exact ih (alike.push call first)

theorem Alike.refl (builder : Builder) : builder.Alike builder where
  context := rfl
  error := rfl
  program := List.forall₂_same.mpr fun _ _ => ⟨rfl, rfl, rfl, .refl _⟩

theorem Alike.pushEach (alike : builder.Alike other) (call : String) {kinds spellings : List Kind}
    (same : List.Forall₂ Kind.Alike kinds spellings) :
    (builder.pushEach call kinds).Alike (other.pushEach call spellings) := by
  cases same with
  | nil => exact ⟨alike.context, by simp [Builder.pushEach, alike.error], alike.program⟩
  | cons first rest => exact Alike.foldl_push call (.cons first rest) alike

theorem Alike.application (alike : builder.Alike other) {paths spellings : List Path}
    (same : paths.map (·.components) = spellings.map (·.components)) :
    (builder.application paths).Alike (other.application spellings) := by
  refine alike.pushEach "application" ?_
  rw [← List.forall₂_eq_eq_eq, List.forall₂_map_left_iff, List.forall₂_map_right_iff] at same
  rw [List.forall₂_map_left_iff, List.forall₂_map_right_iff]
  exact same.imp fun _ _ eq => .application eq

end Builder

/-! ## Compiling directives that differ in spelling -/

theorem Kind.Alike.isNameResolution {kind other : Kind} (alike : kind.Alike other) :
    kind.isNameResolution = other.isNameResolution ∧ kind.name = other.name := by
  cases alike <;> exact ⟨rfl, rfl⟩

theorem Directive.Alike.ofDirective {directive other : Directive}
    (alike : directive.Alike other) (index cursor : Nat) :
    Assigned.ofDirective index cursor directive = Assigned.ofDirective index cursor other := by
  obtain ⟨names, name⟩ := alike.kind.isNameResolution
  rw [Assigned.ofDirective, Assigned.ofDirective, alike.weight, names, name]

theorem Directive.Alike.ofProgramFrom {program spelling : List Directive}
    (alike : List.Forall₂ Directive.Alike program spelling) (index cursor : Nat) :
    Assigned.ofProgramFrom index cursor program =
      Assigned.ofProgramFrom index cursor spelling := by
  induction alike generalizing index cursor with
  | nil => rfl
  | cons first _ ih =>
    simp only [Assigned.ofProgramFrom]
    rw [first.ofDirective]
    simp only [ih]

section Uniform

variable {resolver : Resolver}

theorem Directive.Alike.compile_ok (uniform : resolver.Uniform) {directive other : Directive}
    (alike : directive.Alike other) {weight : Assigned} {compiled : CompiledDirective}
    (ok : (directive.compile resolver weight).result = .ok compiled) :
    (other.compile resolver weight).result = .ok compiled := by
  obtain ⟨action, scope, kind, hint⟩ := directive
  obtain ⟨_, _, spelling, hint'⟩ := other
  obtain ⟨rfl, rfl, rfl, same⟩ := alike
  cases same with
  | refl => exact ok
  | @application path spelling same =>
    rw [Directive.result_compile, bind_eq_ok] at ok ⊢
    obtain ⟨filters, expanded, eq⟩ := ok
    refine ⟨filters, ?_, eq⟩
    cases action <;>
      simp only [Directive.expand, Looked.result_bind, Looked.appId, bind_eq_ok] at expanded ⊢ <;>
      exact expanded.imp fun id both => ⟨uniform _ _ same id both.1, both.2⟩

theorem Directive.Alike.compileAll_ok (uniform : resolver.Uniform)
    {program spelling : List Directive} (alike : List.Forall₂ Directive.Alike program spelling)
    {weights : List Assigned} {compiled : List CompiledDirective}
    (ok : (Policy.compileAll resolver (program.zip weights)).result = .ok compiled) :
    (Policy.compileAll resolver (spelling.zip weights)).result = .ok compiled := by
  induction alike generalizing weights compiled with
  | nil => exact ok
  | cons first _ ih =>
    cases weights with
    | nil => exact ok
    | cons weight weights =>
      rw [List.zip_cons_cons, Policy.result_compileAll_cons] at ok ⊢
      obtain ⟨head, start, rest⟩ := bind_eq_ok.mp ok
      obtain ⟨others, later, eq⟩ := bind_eq_ok.mp rest
      exact bind_eq_ok.mpr ⟨head, first.compile_ok uniform start,
        bind_eq_ok.mpr ⟨others, ih later, eq⟩⟩

theorem Builder.Alike.compile_ok (uniform : resolver.Uniform) {builder other : Builder}
    (alike : builder.Alike other) {policy : Policy}
    (ok : (builder.compile resolver).result = .ok policy) :
    (other.compile resolver).result = .ok policy := by
  rw [Builder.compile, alike.error] at ok
  rw [Builder.compile]
  cases broken : other.error with
  | some error =>
    rw [broken] at ok
    cases ok
  | none =>
    simp only [broken] at ok ⊢
    obtain ⟨weights, assigned, compiled⟩ := Policy.compile_eq_ok.mp ok
    rw [Assigned.ofProgram, Directive.Alike.ofProgramFrom alike.program] at assigned
    exact Policy.compile_eq_ok.mpr
      ⟨weights, assigned, Directive.Alike.compileAll_ok uniform alike.program compiled⟩

theorem Settings.same_self (settings : Settings) : settings.same settings = true := by
  simp [Settings.same]

theorem Settings.same_trans {settings other last : Settings}
    (first : settings.same other = true) (second : other.same last = true) :
    settings.same last = true := by
  simp only [Settings.same, Bool.and_eq_true, decide_eq_true_eq] at first second ⊢
  grind

theorem Settings.enable_eq_of_same {settings other : Settings}
    (same : settings.same other = true) :
    settings.enableKillSwitch = other.enableKillSwitch := by
  simp only [Settings.same, Bool.and_eq_true, decide_eq_true_eq] at same
  exact same.1.1.1.1.1.1

/-- The programs come last in the policy of the settings. -/
theorem Settings.builder_withApps (settings : Settings) (apps : List Path) :
    { settings with trustedApps := apps }.builder =
      if apps.isEmpty then { settings with trustedApps := [] }.builder
      else { settings with trustedApps := [] }.builder.application apps := by
  simp only [Settings.builder, Settings.nameServers, List.isEmpty_nil, if_true]

theorem Settings.compile_ok_withApps (uniform : resolver.Uniform) (settings : Settings)
    {apps spellings : List Path}
    (same : apps.map (·.components) = spellings.map (·.components)) {policy : Policy}
    (ok : ({ settings with trustedApps := apps }.builder.compile resolver).result = .ok policy) :
    ({ settings with trustedApps := spellings }.builder.compile resolver).result =
      .ok policy := by
  rw [settings.builder_withApps apps] at ok
  rw [settings.builder_withApps spellings]
  cases apps with
  | nil =>
    rw [List.map_eq_nil_iff.mp same.symm]
    exact ok
  | cons first rest =>
    cases spellings with
    | nil => cases same
    | cons other others =>
      exact ((Builder.Alike.refl _).application same).compile_ok uniform ok

/-- Settings that ask for the same compile to the same policy. -/
theorem Settings.compile_ok_of_same (uniform : resolver.Uniform) {settings other : Settings}
    (same : settings.same other = true) {policy : Policy}
    (ok : (settings.builder.compile resolver).result = .ok policy) :
    (other.builder.compile resolver).result = .ok policy := by
  simp only [Settings.same, Bool.and_eq_true, decide_eq_true_eq] at same
  obtain ⟨⟨⟨⟨⟨⟨enable, lan⟩, primary⟩, secondary⟩, tunnel⟩, ikev2⟩, apps⟩ := same
  have eq : { settings with trustedApps := other.trustedApps } = other := by
    rw [enable, lan, primary, secondary, tunnel, ikev2]
  rw [← eq]
  exact settings.compile_ok_withApps uniform apps ok

end Uniform

end TrafficPolicy
