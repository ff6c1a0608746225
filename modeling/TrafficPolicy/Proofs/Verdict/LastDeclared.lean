import TrafficPolicy.Proofs.Policy.Weights
import TrafficPolicy.Proofs.Verdict.Expansion

/-!
# The directive declared last

Directives without weights of their own take theirs in order of declaration, so a directive weighs
more than all before it.  In an engine that holds nothing else, the last directive that covers a
packet decides it (`classify_eq_last_covering`).
-/

namespace TrafficPolicy

section Program

variable {resolver : Resolver}

/-- The filters of a directive without a weight of its own weigh from the cursor on, and less than
the next cursor. -/
theorem Directive.weight_expand {index cursor : Nat} {directive : Directive} {assigned : Assigned}
    {filters : List Filter} (implicit : directive.weight = .implicit)
    (given : Assigned.ofDirective index cursor directive = .ok assigned)
    (expanded : (directive.expand resolver assigned).result = .ok filters) {filter : Filter}
    (member : filter ∈ filters) :
    cursor ≤ filter.weight.toNat ∧ filter.weight.toNat < Assigned.advance cursor assigned := by
  obtain ⟨above, denied⟩ := Assigned.of_implicit implicit given
  rw [Assigned.advance]
  rcases Directive.weight_of_mem_expand expanded member with same | deny
  · rw [same]
    omega
  · have bounds := denied _ deny
    omega

/-- What prevails among the filters of a program is what its last covering directive says. -/
theorem Policy.decide_compileAll {program : List Directive} {index cursor : Nat}
    {weights : List Assigned} {compiled : List CompiledDirective}
    (accepted : ∀ directive ∈ program, directive.Accepted)
    (implicit : ∀ directive ∈ program, directive.weight = .implicit)
    (assigned : Assigned.ofProgramFrom index cursor program = .ok weights)
    (expanded : (compileAll resolver (program.zip weights)).result = .ok compiled)
    (packet : Packet) :
    (∀ filter ∈ compiled.flatMap (·.filters), cursor ≤ filter.weight.toNat) ∧
      (Filter.prevailing? packet (compiled.flatMap (·.filters))).map (·.action) =
        Directive.said? resolver packet program := by
  induction program generalizing index cursor weights compiled with
  | nil =>
    cases assigned
    cases expanded
    exact ⟨by simp, rfl⟩
  | cons directive rest ih =>
    obtain ⟨first, given, others⟩ := bind_eq_ok.mp assigned
    obtain ⟨later, following, eq⟩ := bind_eq_ok.mp others
    cases eq
    rw [List.zip_cons_cons] at expanded
    obtain ⟨filters, remaining, here, there, rfl⟩ := Policy.compileAll_cons_eq_ok.mp expanded
    obtain ⟨made, accepted'⟩ := List.forall_mem_cons.mp accepted
    obtain ⟨plain, implicit'⟩ := List.forall_mem_cons.mp implicit
    obtain ⟨heavier, decides⟩ := ih accepted' implicit' following there
    have bounds := @Directive.weight_expand resolver _ _ _ _ _ plain given here
    have above : ∀ filter ∈ filters, ∀ other ∈ remaining.flatMap (·.filters),
        filter.weight < other.weight := fun filter member other member' =>
      Nat.lt_of_lt_of_le (bounds member).2 (heavier other member')
    refine ⟨fun filter member => ?_, ?_⟩
    · rcases List.mem_append.mp member with inside | inside
      · exact (bounds inside).1
      · exact Nat.le_trans (Nat.le_max_left _ _) (heavier filter inside)
    · rw [List.flatMap_cons, Filter.prevailing?_append above, Option.map_or, decides,
        Directive.decide_expand made here,
        ← Directive.said?_singleton, ← Directive.said?_append, List.singleton_append]

theorem Policy.decide_compile {program : List Directive} {policy : Policy}
    (accepted : ∀ directive ∈ program, directive.Accepted)
    (implicit : ∀ directive ∈ program, directive.weight = .implicit)
    (compiled : (compile resolver program).result = .ok policy) (packet : Packet) :
    (Filter.prevailing? packet policy.filters).map (·.action) =
      Directive.said? resolver packet program := by
  obtain ⟨weights, assigned, expanded⟩ := Policy.compile_eq_ok.mp compiled
  exact (Policy.decide_compileAll accepted implicit assigned expanded packet).2

/-- In an engine without other filters, the last directive of a program that covers a packet
decides it, and no other packet is decided at all. -/
theorem classify_eq_last_covering {program : List Directive} {policy : Policy}
    {memory after : Memory} {options : InstallOptions} {installed : Installed SessionId}
    (accepted : ∀ directive ∈ program, directive.Accepted)
    (implicit : ∀ directive ∈ program, directive.weight = .implicit)
    (compiled : (Policy.compile resolver program).result = .ok policy)
    (reachable : memory.Reachable) (empty : memory.filters = [])
    (done : policy.install Memory.engine options memory = (.ok installed, after))
    (packet : Packet) :
    after.classify packet =
      (program.reverse.find? (·.covers resolver packet)).map (·.verdict packet) := by
  rw [policy.classify_install reachable.sound empty done packet]
  exact Policy.decide_compile accepted implicit compiled packet

end Program

theorem classify_nameServer :
    let program : List Directive :=
      [⟨.block, .both, .allTraffic, .implicit⟩, ⟨.allow, .both, .nameResolution [], .implicit⟩]
    ∃ policy installed after,
      (Policy.compile ({} : LookupTable).resolver program).result = .ok policy ∧
        policy.install Memory.engine {} {} = (.ok installed, after) ∧
        after.classify (.outbound (.ofOctets 10 255 0 1) 53 17) = some .allow := by
  intro program
  have accepted : ∀ directive ∈ program, directive.Accepted := by
    rw [List.forall_mem_cons, List.forall_mem_singleton]
    exact ⟨⟨"all", {}, .allTraffic, rfl⟩,
      ⟨"domain_name_system", { action := .allow }, .nameResolution [], rfl⟩⟩
  have implicit : ∀ directive ∈ program, directive.weight = .implicit := by decide
  obtain ⟨installed, ran⟩ := @exists_eq_ok _ _
    ((Policy.compile ({} : LookupTable).resolver program).result >>= fun policy =>
      (policy.install Memory.engine {} {}).1) (by simp only [program]; decide +kernel)
  obtain ⟨policy, compiled, done⟩ := bind_eq_ok.mp ran
  refine ⟨policy, installed, _, compiled, Prod.ext done rfl, ?_⟩
  rw [classify_eq_last_covering accepted implicit compiled .start rfl (Prod.ext done rfl)]
  simp only [program]
  decide +kernel

end TrafficPolicy
