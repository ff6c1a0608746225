import TrafficPolicy.Proofs.Policy.Obstacles
import TrafficPolicy.Proofs.Verdict.Settings

/-!
# The policy of valid settings

`Settings.validate` reads the entries for name servers on its own, and `Settings.nameServers` reads
them again.  They agree on every text: of valid settings each entry that is not blank is a name
server (`Settings.map_parse?_entries`).

No directive of valid settings is refused.  Each takes the next weights, as many as
`Settings.weightCount` says in all, and only the trusted programs are looked up, so these two are
all that compiling depends on (`Settings.compile_of_valid`).
-/

namespace TrafficPolicy

namespace Settings

variable {settings : Settings}

/-! ## Name servers -/

/-- The entries for name servers, the primary one first. -/
def entries (settings : Settings) : List String :=
  [settings.primaryDns, settings.secondaryDns].map Text.trim

theorem checkResolver_eq_ok_iff {field entry : String} {done : Unit} :
    checkResolver field entry = .ok done ↔
      (Text.trim entry).isEmpty = true ∨ (Address.parse? (Text.trim entry)).isSome = true := by
  rw [checkResolver, ← Bool.or_eq_true]
  cases (Text.trim entry).isEmpty || (Address.parse? (Text.trim entry)).isSome <;> simp

theorem validate_eq_ok_iff :
    settings.validate = .ok () ↔
      (∀ entry ∈ settings.entries,
        entry.isEmpty = true ∨ (Address.parse? entry).isSome = true) ∧
      ∀ path ∈ settings.trustedApps, path.isEmpty = false := by
  simp only [validate, bind_eq_ok, checkResolver_eq_ok_iff, exists_const]
  simp [entries, and_assoc]

/-- Of entries that are blank or addresses, those that are not blank are the addresses. -/
theorem map_parse?_of_forall {entries : List String}
    (sound : ∀ entry ∈ entries, entry.isEmpty = true ∨ (Address.parse? entry).isSome = true) :
    (entries.filter (!·.isEmpty)).map Address.parse? =
      (entries.filterMap Address.parse?).map some := by
  induction entries with
  | nil => rfl
  | cons entry rest ih =>
    obtain ⟨first, others⟩ := List.forall_mem_cons.mp sound
    rw [List.filter_cons, List.filterMap_cons]
    cases blank : entry.isEmpty with
    | true =>
      have nothing : Address.parse? entry = none := by
        rw [String.isEmpty_iff.mp blank]
        decide
      rw [nothing]
      exact ih others
    | false =>
      rw [blank] at first
      obtain ⟨address, read⟩ := Option.isSome_iff_exists.mp (first.resolve_left Bool.false_ne_true)
      rw [read]
      exact congrArg₂ List.cons read (ih others)

/-- No entry of valid settings is skipped for not being an address. -/
theorem map_parse?_entries (valid : settings.validate = .ok ()) :
    (settings.entries.filter (!·.isEmpty)).map Address.parse? =
      settings.nameServers.map some := by
  rw [map_parse?_of_forall (validate_eq_ok_iff.mp valid).1, entries, List.filterMap_map,
    Function.comp_def, nameServers]

/-! ## The program -/

/-- Whether settings let a kind through without a value that could be refused or looked up. -/
def isPlain : Kind → Bool
  | .loopback | .interface _ | .ikev2 | .nameResolution _ | .localAreaNetwork => true
  | _ => false

theorem accepted_of_isPlain {kind : Kind} (plain : isPlain kind = true) :
    (Builder.directive context kind).Accepted := by
  rw [Directive.accepted_iff]
  cases kind with
  | loopback | interface | ikev2 | localAreaNetwork => exact ⟨rfl, rfl, rfl⟩
  | nameResolution servers =>
    -- Both families are in scope.
    have inScope : ∀ server : Address, Scope.both.admits server = true := fun server => by
      cases server <;> rfl
    exact ⟨rfl, rfl, by simp [Builder.directive, Kind.fault?, context, inScope]⟩
  | _ => cases plain

theorem obstacle?_of_isPlain (resolver : Resolver) {kind : Kind} (plain : isPlain kind = true) :
    (Builder.directive context kind).obstacle? resolver = none := by
  cases kind with
  | loopback | interface | ikev2 | localAreaNetwork => rfl
  | nameResolution servers => cases servers <;> rfl
  | _ => cases plain

/-- Besides the trusted programs, which come last, all that settings let through is plain. -/
theorem allowed_eq_append (settings : Settings) :
    ∃ plain : List Kind, (∀ kind ∈ plain, isPlain kind = true) ∧
      settings.allowed = plain ++ settings.trustedApps.map .application := by
  refine ⟨_, ?_, rfl⟩
  -- The name servers stay a variable, or Lean reads addresses.
  generalize settings.nameServers = servers
  intro kind among
  simp only [List.mem_append, List.mem_map, List.mem_singleton, List.mem_ite_nil_right] at among
  rcases among with (((rfl | ⟨_, _, rfl⟩) | ⟨_, rfl⟩) | rfl) | ⟨_, rfl⟩ <;> rfl

theorem accepted_of_mem_program (valid : settings.validate = .ok ()) {directive : Directive}
    (member : directive ∈ settings.program) : directive.Accepted := by
  obtain ⟨plain, clear, split⟩ := allowed_eq_append settings
  rw [program, split] at member
  rcases List.mem_cons.mp member with rfl | inside
  · exact Directive.accepted_iff.mpr ⟨rfl, rfl, rfl⟩
  · obtain ⟨kind, among, rfl⟩ := List.mem_map.mp inside
    rcases List.mem_append.mp among with early | app
    · exact accepted_of_isPlain (clear kind early)
    · obtain ⟨path, trusted, rfl⟩ := List.mem_map.mp app
      have named := (validate_eq_ok_iff.mp valid).2 path trusted
      exact Directive.accepted_iff.mpr ⟨rfl, rfl, if_neg (named ▸ Bool.false_ne_true)⟩

/-- No call for valid settings is refused, so the builder has their program. -/
theorem builder_of_valid (valid : settings.validate = .ok ()) :
    settings.builder.error = none ∧ settings.builder.program = settings.program := by
  have collects := collects_builder settings
  have sound := collects.clean fun _ member => accepted_of_mem_program valid member
  exact ⟨sound, (collects.collected sound).1⟩

theorem compile_builder_of_valid (valid : settings.validate = .ok ()) (resolver : Resolver) :
    settings.builder.compile resolver = Policy.compile resolver settings.program := by
  obtain ⟨sound, same⟩ := builder_of_valid valid
  simp only [Builder.compile, sound, same]

/-- The obstacles of settings are the trusted programs that are not found. -/
theorem findSome?_obstacle? (settings : Settings) (resolver : Resolver) :
    settings.program.findSome? (·.obstacle? resolver) =
      settings.trustedApps.findSome? fun path => refusal? (resolver.appId path) := by
  obtain ⟨plain, clear, split⟩ := allowed_eq_append settings
  have nothing : plain.findSome?
      (fun kind => (Builder.directive context kind).obstacle? resolver) = none :=
    List.findSome?_eq_none_iff.mpr fun kind member =>
      obstacle?_of_isPlain resolver (clear kind member)
  rw [program, split, List.findSome?_cons, List.findSome?_map, List.findSome?_append,
    List.findSome?_map]
  exact (congrArg (Option.or · _) nothing).trans (Option.none_or)

/-! ## Weights -/

/-- How many weights the program of settings takes. -/
def weightCount (settings : Settings) : Nat :=
  4 + (if settings.tunnelInterface.isSome then 1 else 0) + (if settings.allowIkev2 then 1 else 0) +
    (if settings.allowLan then 1 else 0) + settings.trustedApps.length

theorem sum_width_program (settings : Settings) :
    (settings.program.map (·.kind.width)).sum = settings.weightCount := by
  have kinds : settings.program.map (·.kind.width) = 1 :: settings.allowed.map Kind.width := by
    rw [program, List.map_cons, List.map_map]
    rfl
  have apps : ((settings.trustedApps.map Kind.application).map Kind.width).sum =
      settings.trustedApps.length := by
    rw [List.map_map, show Kind.width ∘ Kind.application = fun _ => 1 from rfl, List.map_const',
      List.sum_replicate, smul_eq_mul, mul_one]
  have tunnel : ((settings.tunnelInterface.toList.map Kind.interface).map Kind.width).sum =
      if settings.tunnelInterface.isSome then 1 else 0 := by
    cases settings.tunnelInterface <;> rfl
  have wanted : ∀ (want : Bool) (kind : Kind), kind.width = 1 →
      ((if want then [kind] else []).map Kind.width).sum = if want then 1 else 0 := by
    intro want kind one
    cases want <;> simp [one]
  rw [kinds, allowed]
  simp only [List.map_append, List.sum_cons, List.sum_append, apps, tunnel,
    wanted settings.allowIkev2 .ikev2 rfl, wanted settings.allowLan .localAreaNetwork rfl]
  simp only [weightCount, List.map_cons, List.map_nil, List.sum_cons, List.sum_nil, Kind.width,
    Kind.isNameResolution, if_true, if_false, Bool.false_eq_true]
  omega

theorem exists_weights (fits : settings.weightCount ≤ 256) :
    ∃ weights, Assigned.ofProgram settings.program = .ok weights := by
  refine Assigned.exists_program_of_fits (fun _ => implicit_of_mem_program) ?_
  rwa [sum_width_program, Nat.zero_add]

theorem exists_exhausted (exceeds : 256 < settings.weightCount) :
    ∃ place, Assigned.ofProgram settings.program =
      .error (.invalidPolicy (.weightsExhausted place)) := by
  refine Assigned.exhausted_program_of_exceeds (fun _ => implicit_of_mem_program)
    (Nat.zero_le _) ?_
  rwa [sum_width_program, Nat.zero_add]

/-! ## Compiling -/

/-- Where the weights suffice, the policy of valid settings fails for the first trusted program that
is not found. -/
theorem refusal?_compile (valid : settings.validate = .ok ()) (fits : settings.weightCount ≤ 256)
    (resolver : Resolver) :
    refusal? (settings.builder.compile resolver).result =
      settings.trustedApps.findSome? fun path => refusal? (resolver.appId path) := by
  obtain ⟨weights, weighed⟩ := exists_weights fits
  refine Option.ext fun error => ?_
  rw [refusal?_eq_some_iff, compile_builder_of_valid valid,
    Policy.result_eq_error_of_accepted fun _ => accepted_of_mem_program valid,
    findSome?_obstacle?, weighed]
  simp

/-- Where the weights do not suffice, nothing is looked up. -/
theorem compile_of_exceeds (valid : settings.validate = .ok ())
    (exceeds : 256 < settings.weightCount) (resolver : Resolver) :
    (∃ fault, (settings.builder.compile resolver).result = .error (.invalidPolicy fault)) ∧
      (settings.builder.compile resolver).lookups = [] := by
  obtain ⟨place, refused⟩ := exists_exhausted exceeds
  rw [compile_builder_of_valid valid]
  refine ⟨⟨.weightsExhausted place, ?_⟩, Policy.lookups_compile_of_error refused⟩
  rw [Policy.result_compile, refused]
  rfl

/-- The policy of valid settings fails without a lookup for its weights alone. -/
theorem exceeds_of_silent (valid : settings.validate = .ok ()) {resolver : Resolver}
    {error : PolicyError} (failed : (settings.builder.compile resolver).result = .error error)
    (silent : (settings.builder.compile resolver).lookups = []) : 256 < settings.weightCount := by
  refine Nat.not_le.mp fun fits => ?_
  -- A resolver that finds every program would then give the same.
  let other : Resolver := ⟨fun _ => .ok ⟨[]⟩, fun _ => .ok []⟩
  have same : settings.builder.compile other = settings.builder.compile resolver :=
    Builder.compile_of_agrees fun asked named => by
      rw [silent] at named
      cases named
  have refused := refusal?_compile valid fits other
  rw [same, failed] at refused
  obtain ⟨path, _, missing⟩ := List.exists_of_findSome?_eq_some refused.symm
  cases missing

/-- Valid settings always give their policy: all is blocked, and then comes what they let through,
each under both scopes and without a weight of its own.  Every entry for a name server that is not
blank is one.  The policy is refused without a lookup just if it takes more than the 256 weights.
Otherwise it fails for the first trusted program that is not found, and compiles if all are
found. -/
theorem compile_of_valid (valid : settings.validate = .ok ()) :
    settings.builder.error = none ∧
      settings.builder.program =
        ⟨.block, .both, .allTraffic, .implicit⟩ ::
          settings.allowed.map (⟨.allow, .both, ·, .implicit⟩) ∧
      (settings.entries.filter (!·.isEmpty)).map Address.parse? = settings.nameServers.map some ∧
      ∀ resolver : Resolver,
        ((∃ fault, (settings.builder.compile resolver).result = .error (.invalidPolicy fault)) ∧
            (settings.builder.compile resolver).lookups = [] ↔ 256 < settings.weightCount) ∧
          (settings.weightCount ≤ 256 →
            (∀ error, (settings.builder.compile resolver).result = .error error ↔
              settings.trustedApps.findSome? (fun path => refusal? (resolver.appId path)) =
                some error) ∧
            ((∃ policy, (settings.builder.compile resolver).result = .ok policy) ↔
              ∀ path ∈ settings.trustedApps, ∃ id, resolver.appId path = .ok id)) := by
  obtain ⟨sound, same⟩ := builder_of_valid valid
  refine ⟨sound, same, map_parse?_entries valid, fun resolver => ⟨⟨?_, ?_⟩, fun fits => ⟨?_, ?_⟩⟩⟩
  · rintro ⟨⟨fault, failed⟩, silent⟩
    exact exceeds_of_silent valid failed silent
  · exact fun exceeds => compile_of_exceeds valid exceeds resolver
  · intro error
    rw [← refusal?_compile valid fits, refusal?_eq_some_iff]
  · rw [← refusal?_eq_none_iff, refusal?_compile valid fits, List.findSome?_eq_none_iff]
    exact forall₂_congr fun path _ => refusal?_eq_none_iff

/-- Blanks around an entry do not count, and a trusted program that is missing is not skipped. -/
theorem compile_missing_trusted_app :
    let settings : Settings := { primaryDns := " 9.9.9.9 ", trustedApps := [⟨[0x2F, 0x61]⟩] }
    settings.validate = .ok () ∧
      settings.nameServers.map some = [some (.ofOctets 9 9 9 9)] ∧
      (settings.builder.compile ({} : LookupTable).resolver).result =
        .error (.resolutionFailed "/a" .missingFile) := by
  intro settings
  have valid : settings.validate = .ok () := by
    simp only [settings]
    decide +kernel
  obtain ⟨_, _, named, compiled⟩ := compile_of_valid valid
  refine ⟨valid, named.symm.trans ?_, (((compiled _).2 ?_).1 _).mpr ?_⟩ <;>
    · simp only [settings]
      decide +kernel

end Settings

end TrafficPolicy
