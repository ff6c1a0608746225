import TrafficPolicy.Proofs.Verdict.Expansion

/-!
# The heaviest part

With weights of their own, directives need not prevail in the order of their declaration, and one
on name resolution may have others between its two weights.  So a program is taken apart: a
directive on name resolution has a part that denies and one that allows, any other directive is one
part.  `Part.Decides` says which part of a program has the say on a packet: of those that cover it
the one of the greatest weight, and among equal weights the one declared last.

The filters of a policy stand for the parts of its program one after the other (`Part.Stand`), so in
an engine that holds nothing else the part that has the say decides (`classify_eq_heaviest_part`).
-/

namespace TrafficPolicy

/-- What of a directive a part is. -/
inductive Share where
  /-- All of it; it is not on name resolution. -/
  | whole
  /-- That name resolution is denied. -/
  | deny
  /-- That the name servers of the directive are allowed. -/
  | allow
  deriving DecidableEq, Repr

/-- A part of a program, with its weight and the place of its directive. -/
structure Part where
  index : Nat
  directive : Directive
  share : Share
  weight : UInt8
  deriving DecidableEq, Repr

/-- A packet goes to a name server that a directive means, on a layer of its family. -/
def Directive.serves (directive : Directive) (packet : Packet) : Bool :=
  match directive.kind with
  | .nameResolution servers =>
    (effectiveServers servers).contains packet.remoteAddress &&
      packet.remoteAddress.family = packet.layer.family
  | _ => false

/-- The parts of the directive at `index`. -/
def Directive.parts (index : Nat) (directive : Directive) (assigned : Assigned) : List Part :=
  if directive.kind.isNameResolution then
    assigned.deny.toList.map (⟨index, directive, .deny, ·⟩) ++
      [⟨index, directive, .allow, assigned.weight⟩]
  else [⟨index, directive, .whole, assigned.weight⟩]

namespace Part

/-- The parts of the directives from `index` on. -/
def ofProgramFrom (index : Nat) : List (Directive × Assigned) → List Part
  | [] => []
  | (directive, assigned) :: rest =>
    directive.parts index assigned ++ ofProgramFrom (index + 1) rest

/-- The parts of a program whose directives have these weights. -/
def ofProgram (program : List Directive) (weights : List Assigned) : List Part :=
  ofProgramFrom 0 (program.zip weights)

/-- What a part does with the packets that it covers. -/
def action (part : Part) : Action :=
  match part.share with
  | .whole => part.directive.action
  | .deny => .block
  | .allow => .allow

/-- Whether a part speaks of a packet. -/
def covers (resolver : Resolver) (part : Part) (packet : Packet) : Bool :=
  part.directive.covers resolver packet &&
    match part.share with
    | .whole | .deny => true
    | .allow => part.directive.serves packet

/-- The part weighs less, or as much and was declared earlier. -/
def Below (part other : Part) : Prop :=
  part.weight < other.weight ∨ part.weight = other.weight ∧ part.index < other.index

/-- A part has the say on a packet: all others that cover it are below. -/
structure Decides (resolver : Resolver) (packet : Packet) (parts : List Part) (part : Part) :
    Prop where
  mem : part ∈ parts
  covers : part.covers resolver packet = true
  greatest : ∀ other ∈ parts, other.covers resolver packet = true → other = part ∨ other.Below part

/-- The part comes first in a program: by its place, or by its weight in the same directive. -/
def Precedes (part other : Part) : Prop :=
  part.index < other.index ∨ part.index = other.index ∧ part.weight < other.weight

/-- The filters of a list stand for these parts, one after the other. -/
inductive Stand (resolver : Resolver) : List Part → List Filter → Prop
  | nil : Stand resolver [] []
  | cons {part : Part} {parts : List Part} {group filters : List Filter} :
    Rules.Stands part.action part.weight (part.covers resolver) group →
    Stand resolver parts filters → Stand resolver (part :: parts) (group ++ filters)

end Part

/-! ## Which part has the say -/

namespace Part

variable {resolver : Resolver} {packet : Packet} {parts others : List Part}
  {filters remaining : List Filter}

theorem Stand.append (first : Stand resolver parts filters)
    (second : Stand resolver others remaining) :
    Stand resolver (parts ++ others) (filters ++ remaining) := by
  induction first with
  | nil => exact second
  | cons stands _ ih => exact List.append_assoc .. ▸ .cons stands ih

/-- Of filters that stand for parts one prevails as the part says that has the say on the packet. -/
theorem Stand.decide (stand : Stand resolver parts filters) (ordered : parts.Pairwise Precedes)
    (packet : Packet) :
    ((∀ part ∈ parts, part.covers resolver packet = false) ∧
        Filter.prevailing? packet filters = none) ∨
      ∃ part best, Decides resolver packet parts part ∧
        Filter.prevailing? packet filters = some best ∧
        best.action = part.action ∧ best.weight = part.weight := by
  induction stand with
  | nil => exact Or.inl ⟨List.forall_mem_nil _, rfl⟩
  | @cons first parts group filters stands _ ih =>
    obtain ⟨precedes, ordered⟩ := List.pairwise_cons.mp ordered
    rw [Filter.prevailing?_append_eq]
    rcases ih ordered with ⟨apart, none⟩ | ⟨part, best, decides, later, action, weight⟩
    · rw [none]
      cases covered : first.covers resolver packet with
      | false => exact Or.inl ⟨List.forall_mem_cons.mpr ⟨covered, apart⟩, stands.silent covered⟩
      | true =>
        obtain ⟨best, prevails, action, weight⟩ := stands.prevails covered
        refine Or.inr ⟨first, best, ⟨List.mem_cons_self, covered, ?_⟩, prevails, action, weight⟩
        rintro other member covers
        rcases List.mem_cons.mp member with rfl | inside
        · exact Or.inl rfl
        · exact absurd covers (by rw [apart other inside]; exact Bool.false_ne_true)
    · have kept : (first.covers resolver packet = true → first.Below part) →
          Decides resolver packet (first :: parts) part := fun below =>
        ⟨List.mem_cons_of_mem _ decides.mem, decides.covers, fun other member covers =>
          (List.mem_cons.mp member).elim (fun same => Or.inr (same ▸ below (same ▸ covers)))
            fun inside => decides.greatest other inside covers⟩
      rw [later]
      cases covered : first.covers resolver packet with
      | false =>
        rw [stands.silent covered]
        exact Or.inr ⟨part, best, kept fun covers => absurd (covered ▸ covers) Bool.false_ne_true,
          rfl, action, weight⟩
      | true =>
        obtain ⟨heavy, prevails, action', weight'⟩ := stands.prevails covered
        rw [prevails]
        dsimp only
        split
        next less =>
          rw [weight, weight'] at less
          refine Or.inr ⟨first, heavy, ⟨List.mem_cons_self, covered, ?_⟩, rfl, action', weight'⟩
          intro other member covers
          rcases List.mem_cons.mp member with rfl | inside
          · exact Or.inl rfl
          · rcases decides.greatest other inside covers with rfl | lighter | ⟨same, _⟩
            · exact Or.inr (Or.inl less)
            · exact Or.inr (Or.inl (UInt8.lt_trans lighter less))
            · exact Or.inr (Or.inl (same ▸ less))
        next notLess =>
          rw [weight, weight', UInt8.not_lt] at notLess
          refine Or.inr ⟨part, best, kept fun _ => ?_, rfl, action, weight⟩
          rcases UInt8.lt_or_eq_of_le notLess with lighter | same
          · exact Or.inl lighter
          · refine Or.inr ⟨same, (precedes part decides.mem).resolve_right fun both => ?_⟩
            exact UInt8.ne_of_lt both.2 same

end Part

/-! ## The parts of a program -/

/-- In the scope of a directive its name servers are allowed again. -/
theorem Directive.Accepted.stands_allowed {directive : Directive} (accepted : directive.Accepted)
    {servers effective : List Address} (kind : directive.kind = .nameResolution servers)
    (found : Rules.effectiveResolvers directive.scope servers = .ok effective)
    (resolver : Resolver) (weight : UInt8) :
    Rules.Stands .allow weight
      (fun packet => directive.covers resolver packet && directive.serves packet)
      (Rules.allowNames weight effective .v4 ++ Rules.allowNames weight effective .v6) := by
  obtain ⟨rfl, inside⟩ := Rules.of_effectiveResolvers (accepted.admits kind) found
  refine (Rules.stands_admitted inside weight).congr fun packet => ?_
  rw [Directive.covers, Directive.serves, kind, Kind.covers]

/-- A directive on name resolution that compiles has two parts, and filters for each of them. -/
theorem Directive.parts_of_names {resolver : Resolver} {directive : Directive}
    {assigned : Assigned} {filters : List Filter}
    (names : directive.kind.isNameResolution = true)
    (expanded : (directive.expand resolver assigned).result = .ok filters) :
    ∃ servers effective, ∃ deny < assigned.weight, directive.kind = .nameResolution servers ∧
      Rules.effectiveResolvers directive.scope servers = .ok effective ∧
      filters = Rules.denyNames directive.scope deny ++
        (Rules.allowNames assigned.weight effective .v4 ++
          Rules.allowNames assigned.weight effective .v6) ∧
      ∀ index, directive.parts index assigned =
        [⟨index, directive, .deny, deny⟩, ⟨index, directive, .allow, assigned.weight⟩] := by
  cases Directive.expand_eq_ok.mp expanded with
  | @nameResolution scope _ deny servers effective denied below found =>
    refine ⟨servers, effective, deny, below, rfl, found, rfl, fun index => ?_⟩
    rw [Directive.parts, names, if_pos rfl, denied]
    rfl
  | _ => cases names

/-- The filters of a directive stand for its parts, which are in order. -/
theorem Directive.stand_parts {resolver : Resolver} {directive : Directive} {assigned : Assigned}
    {filters : List Filter} (accepted : directive.Accepted)
    (expanded : (directive.expand resolver assigned).result = .ok filters) (index : Nat) :
    Part.Stand resolver (directive.parts index assigned) filters ∧
      (directive.parts index assigned).Pairwise Part.Precedes := by
  cases names : directive.kind.isNameResolution with
  | false =>
    have stands := directive.stands_expand names expanded
    rw [Directive.parts, names, if_neg Bool.false_ne_true, ← List.append_nil filters]
    refine ⟨.cons (stands.congr fun packet => (Bool.and_true _).symm) .nil, ?_⟩
    exact List.pairwise_singleton _ _
  | true =>
    obtain ⟨servers, effective, deny, below, kind, found, rfl, parts⟩ :=
      directive.parts_of_names names expanded
    rw [parts]
    refine ⟨.cons ?_ (List.append_nil (Rules.allowNames .. ++ _) ▸ .cons ?_ .nil), ?_⟩
    · refine (Rules.stands_denyNames directive.scope deny).congr fun packet => ?_
      rw [Part.covers, Directive.covers, kind]
      exact (Bool.and_true _).symm
    · exact accepted.stands_allowed kind found resolver assigned.weight
    · exact List.pairwise_pair.mpr (Or.inr ⟨rfl, below⟩)

theorem Directive.index_of_mem_parts {directive : Directive} {index : Nat} {assigned : Assigned}
    {part : Part} (member : part ∈ directive.parts index assigned) : part.index = index := by
  rw [Directive.parts] at member
  split at member
  · rcases List.mem_append.mp member with denied | allowed
    · obtain ⟨_, _, rfl⟩ := List.mem_map.mp denied
      rfl
    · rw [List.mem_singleton.mp allowed]
  · rw [List.mem_singleton.mp member]

theorem Part.le_index_of_mem {index : Nat} {entries : List (Directive × Assigned)} {part : Part}
    (member : part ∈ Part.ofProgramFrom index entries) : index ≤ part.index := by
  induction entries generalizing index with
  | nil => cases member
  | cons entry rest ih =>
    rcases List.mem_append.mp member with here | there
    · exact Nat.le_of_eq (Directive.index_of_mem_parts here).symm
    · exact Nat.le_of_succ_le (ih there)

/-- The filters of a compiled program stand for its parts, which are in order. -/
theorem Policy.stand_compileAll {resolver : Resolver} {index : Nat}
    {entries : List (Directive × Assigned)} {compiled : List CompiledDirective}
    (accepted : ∀ entry ∈ entries, entry.1.Accepted)
    (expanded : (compileAll resolver entries).result = .ok compiled) :
    Part.Stand resolver (Part.ofProgramFrom index entries) (compiled.flatMap (·.filters)) ∧
      (Part.ofProgramFrom index entries).Pairwise Part.Precedes := by
  induction entries generalizing index compiled with
  | nil =>
    cases expanded
    exact ⟨.nil, List.Pairwise.nil⟩
  | cons entry rest ih =>
    obtain ⟨filters, others, here, there, rfl⟩ := Policy.compileAll_cons_eq_ok.mp expanded
    obtain ⟨made, accepted'⟩ := List.forall_mem_cons.mp accepted
    obtain ⟨first, ordered⟩ := entry.1.stand_parts made here index
    obtain ⟨later, ordered'⟩ := @ih (index + 1) others accepted' there
    refine ⟨first.append later, List.pairwise_append.mpr ⟨ordered, ordered', ?_⟩⟩
    intro part before other after
    rw [← Directive.index_of_mem_parts before] at after
    exact Or.inl (Part.le_index_of_mem after)

/-- Where a directive allows its name servers, it denies all others with a lower weight. -/
theorem Policy.exists_deny {resolver : Resolver} {index : Nat}
    {entries : List (Directive × Assigned)} {compiled : List CompiledDirective}
    (expanded : (compileAll resolver entries).result = .ok compiled) {allow : Part}
    (member : allow ∈ Part.ofProgramFrom index entries) (allows : allow.share = .allow) :
    ∃ deny < allow.weight,
      ⟨allow.index, allow.directive, .deny, deny⟩ ∈ Part.ofProgramFrom index entries := by
  induction entries generalizing index compiled with
  | nil => cases member
  | cons entry rest ih =>
    obtain ⟨filters, others, here, there, rfl⟩ := Policy.compileAll_cons_eq_ok.mp expanded
    rcases List.mem_append.mp member with first | later
    · cases names : entry.1.kind.isNameResolution with
      | false =>
        rw [Directive.parts, names, if_neg Bool.false_ne_true, List.mem_singleton] at first
        rw [first] at allows
        cases allows
      | true =>
        obtain ⟨_, _, deny, below, _, _, _, parts⟩ := entry.1.parts_of_names names here
        rw [parts, List.mem_cons, List.mem_singleton] at first
        rcases first with rfl | rfl
        · cases allows
        · refine ⟨deny, below, List.mem_append_left _ ?_⟩
          rw [parts]
          exact List.mem_cons_self
    · obtain ⟨deny, below, found⟩ := ih there later
      exact ⟨deny, below, List.mem_append_right _ found⟩

theorem Part.not_decides_of_lt {resolver : Resolver} {packet : Packet} {parts : List Part}
    {part other : Part} (member : other ∈ parts) (covers : other.covers resolver packet = true)
    (heavier : part.weight < other.weight) : ¬ Part.Decides resolver packet parts part := by
  intro decides
  rcases decides.greatest other member covers with rfl | lighter | ⟨same, _⟩
  · exact UInt8.lt_irrefl _ heavier
  · exact UInt8.lt_asymm lighter heavier
  · exact UInt8.ne_of_lt heavier same.symm

/-- In an engine without other filters, the part of a program that has the say on a packet decides
it, and a packet that no part covers is not decided at all.  What weighs between the two parts of a
directive on name resolution goes before the one and after the other. -/
theorem classify_eq_heaviest_part {resolver : Resolver} {program : List Directive}
    {policy : Policy} {memory after : Memory} {options : InstallOptions}
    {installed : Installed SessionId} (accepted : ∀ directive ∈ program, directive.Accepted)
    (compiled : (Policy.compile resolver program).result = .ok policy)
    (reachable : memory.Reachable) (empty : memory.filters = [])
    (done : policy.install Memory.engine options memory = (.ok installed, after)) :
    ∃ weights, Assigned.ofProgram program = .ok weights ∧
      (∀ packet,
        ((∀ part ∈ Part.ofProgram program weights, part.covers resolver packet = false) ∧
          after.classify packet = none) ∨
        ∃ part, Part.Decides resolver packet (Part.ofProgram program weights) part ∧
          after.classify packet = some part.action) ∧
      ∀ allow ∈ Part.ofProgram program weights, allow.share = .allow →
        ∃ deny ∈ Part.ofProgram program weights, deny.share = .deny ∧
          deny.index = allow.index ∧ deny.directive = allow.directive ∧
          deny.weight < allow.weight ∧
          ∀ other ∈ Part.ofProgram program weights,
            deny.weight < other.weight → other.weight < allow.weight →
            ∀ packet, other.covers resolver packet = true →
              ¬ Part.Decides resolver packet (Part.ofProgram program weights) deny ∧
              (allow.covers resolver packet = true →
                ¬ Part.Decides resolver packet (Part.ofProgram program weights) other) := by
  obtain ⟨weights, assigned, expanded⟩ := Policy.compile_eq_ok.mp compiled
  have made : ∀ entry ∈ program.zip weights, entry.1.Accepted := fun entry member =>
    accepted entry.1 (List.of_mem_zip member).1
  obtain ⟨stand, ordered⟩ := @Policy.stand_compileAll resolver 0 _ _ made expanded
  refine ⟨weights, assigned, fun packet => ?_, fun allow member allows => ?_⟩
  · rw [policy.classify_install reachable.sound empty done packet, Policy.filters]
    rcases stand.decide ordered packet with ⟨apart, none⟩ | ⟨part, best, decides, prevails, is, _⟩
    · exact Or.inl ⟨apart, congrArg _ none⟩
    · refine Or.inr ⟨part, decides, ?_⟩
      rw [prevails, Option.map_some, is]
  · obtain ⟨deny, below, found⟩ := Policy.exists_deny expanded member allows
    refine ⟨_, found, rfl, rfl, rfl, below, fun other inside above under packet covers => ?_⟩
    exact ⟨Part.not_decides_of_lt inside covers above,
      fun allowed => Part.not_decides_of_lt member allowed under⟩

/-- Between the two weights of a directive on name resolution, an address is allowed. -/
theorem classify_between_weights :
    let server := Address.ofOctets 9 9 9 9
    let program : List Directive :=
      [⟨.allow, .both, .nameResolution [], .pair 2 6⟩,
        ⟨.allow, .both, .addresses [server], .fixed 4⟩]
    ∃ policy installed after,
      (Policy.compile ({} : LookupTable).resolver program).result = .ok policy ∧
        policy.install Memory.engine {} {} = (.ok installed, after) ∧
        after.classify (.outbound server 53 17) = some .allow := by
  intro server program
  have accepted : ∀ directive ∈ program, directive.Accepted := by
    rw [List.forall_mem_cons, List.forall_mem_singleton]
    exact ⟨
      ⟨"domain_name_system", { action := .allow, weight := .pair 2 6 }, .nameResolution [], rfl⟩,
      ⟨"addresses", { action := .allow, weight := .fixed 4 }, .addresses [server], rfl⟩⟩
  obtain ⟨installed, ran⟩ := @exists_eq_ok _ _
    ((Policy.compile ({} : LookupTable).resolver program).result >>= fun policy =>
      (policy.install Memory.engine {} {}).1) (by simp only [program, server]; decide +kernel)
  obtain ⟨policy, compiled, done⟩ := bind_eq_ok.mp ran
  refine ⟨policy, installed, _, compiled, Prod.ext done rfl, ?_⟩
  obtain ⟨weights, assigned, decides, _⟩ :=
    classify_eq_heaviest_part accepted compiled .start rfl (Prod.ext done rfl)
  obtain rfl : [⟨6, some 2⟩, ⟨4, none⟩] = weights := Except.ok.inj assigned
  have middle : (⟨1, ⟨.allow, .both, .addresses [server], .fixed 4⟩, .whole, 4⟩ : Part) ∈
      Part.ofProgram program [⟨6, some 2⟩, ⟨4, none⟩] := by decide +kernel
  rcases decides (.outbound server 53 17) with ⟨apart, _⟩ | ⟨part, decides, is⟩
  · exact absurd (apart _ middle) (by decide +kernel)
  · rw [is]
    have split : ∀ part ∈ Part.ofProgram program [⟨6, some 2⟩, ⟨4, none⟩],
        part.action = .allow ∨ part.weight < 4 := by decide +kernel
    rcases split part decides.mem with allows | lighter
    · exact congrArg some allows
    · exact absurd decides (Part.not_decides_of_lt middle (by decide +kernel) lighter)

end TrafficPolicy
