import TrafficPolicy.Builder

/-!
# What builders collect

A directive is `Directive.Accepted` when some call made it, so its kind has no fault under its
scope.  `Builder.Collects` says which program a builder has collected, unless a call has failed.
-/

namespace TrafficPolicy

namespace Directive

variable {directive : Directive}

/-- The directive was made of a call, a context and a kind. -/
def Accepted (directive : Directive) : Prop :=
  ∃ call context kind, make call context kind = .ok directive

/-- A call makes a directive of what it is given if nothing is wrong with that; which call it is
plays no part. -/
theorem make_eq_ok_iff {call : String} {context : Context} {kind : Kind} :
    make call context kind = .ok directive ↔
      (kind.supports context.action = true ∧
        (kind.isIPv4Only && !context.scope.includes .v4) = false ∧
        kind.fault? context.scope = none) ∧
      ⟨context.action, context.scope, kind, context.weight⟩ = directive := by
  rw [make]
  cases kind.supports context.action with
  | false => simp
  | true =>
    cases kind.isIPv4Only && !context.scope.includes .v4 with
    | true => simp
    | false => cases kind.fault? context.scope <;> simp

theorem accepted_iff : directive.Accepted ↔
    directive.kind.supports directive.action = true ∧
      (directive.kind.isIPv4Only && !directive.scope.includes .v4) = false ∧
      directive.kind.fault? directive.scope = none := by
  constructor
  · rintro ⟨call, context, kind, made⟩
    obtain ⟨sound, rfl⟩ := make_eq_ok_iff.mp made
    exact sound
  · intro sound
    exact ⟨"", ⟨directive.action, directive.scope, directive.weight⟩, directive.kind,
      make_eq_ok_iff.mpr ⟨sound, rfl⟩⟩

theorem Accepted.supports (accepted : directive.Accepted) :
    directive.kind.supports directive.action = true :=
  (accepted_iff.mp accepted).1

theorem Accepted.fault?_eq_none (accepted : directive.Accepted) :
    directive.kind.fault? directive.scope = none :=
  (accepted_iff.mp accepted).2.2

theorem Accepted.admits (accepted : directive.Accepted) {servers : List Address}
    (kind : directive.kind = .nameResolution servers) :
    ∀ server ∈ servers, directive.scope.admits server = true := by
  have fault := accepted.fault?_eq_none
  rw [kind, Kind.fault?, Option.map_eq_none_iff, List.find?_eq_none] at fault
  intro server member
  simpa using fault server member

theorem Accepted.includes_v4 (accepted : directive.Accepted)
    (only : directive.kind.isIPv4Only = true) : directive.scope.includes .v4 = true := by
  have scope := (accepted_iff.mp accepted).2.1
  rw [only] at scope
  simpa using scope

theorem Accepted.admits_addresses (accepted : directive.Accepted) {list : List Address}
    (kind : directive.kind = .addresses list) :
    list ≠ [] ∧ ∀ address ∈ list, directive.scope.admits address = true := by
  have fault := accepted.fault?_eq_none
  rw [kind] at fault
  cases list with
  | nil => cases fault
  | cons address rest =>
    rw [Kind.fault?, Option.map_eq_none_iff, List.find?_eq_none] at fault
    · exact ⟨List.cons_ne_nil _ _, fun other member => by simpa using fault other member⟩
    · intro empty
      cases empty

theorem Accepted.admits_network (accepted : directive.Accepted) {network : Network}
    (kind : directive.kind = .localSubnet network ∨ directive.kind = .remoteSubnet network) :
    directive.scope.admits network.address = true := by
  have fault := accepted.fault?_eq_none
  rcases kind with kind | kind <;> rw [kind, Kind.fault?] at fault <;> simpa using fault

end Directive

namespace Builder

/-- Unless a call has failed, the builder has collected a program, and each directive of it was
accepted.  No call has failed if each is one that can be accepted. -/
structure Collects (context : Context) (program : List Directive) (builder : Builder) : Prop where
  context : builder.context = context
  collected : builder.error = none →
    builder.program = program ∧ ∀ directive ∈ program, directive.Accepted
  clean : (∀ directive ∈ program, directive.Accepted) → builder.error = none

/-- The directive of a kind in a context. -/
def directive (context : Context) (kind : Kind) : Directive :=
  ⟨context.action, context.scope, kind, context.weight⟩

variable {context : Context} {program : List Directive} {builder : Builder}

theorem Collects.push (collects : builder.Collects context program) (call : String) (kind : Kind) :
    (builder.push call kind).Collects context (program ++ [directive context kind]) := by
  obtain ⟨rfl, collected, clean⟩ := collects
  cases broken : builder.error with
  | some error =>
    simp only [Builder.push, broken]
    refine ⟨rfl, fun sound => ?_, fun accepted => ?_⟩
    · rw [broken] at sound
      cases sound
    · rw [clean fun other member => accepted other (List.mem_append_left _ member)] at broken
      cases broken
  | none =>
    obtain ⟨before, accepted⟩ := collected broken
    cases made : Directive.make call builder.context kind with
    | error error =>
      simp only [Builder.push, broken, made]
      refine ⟨rfl, (nomatch ·), fun accepted => ?_⟩
      have last := accepted _ (List.mem_append_right _ List.mem_cons_self)
      have ok : Directive.make call builder.context kind = .ok (directive builder.context kind) :=
        Directive.make_eq_ok_iff.mpr ⟨Directive.accepted_iff.mp last, rfl⟩
      rw [ok] at made
      cases made
    | ok last =>
      simp only [Builder.push, broken, made]
      obtain ⟨_, rfl⟩ := Directive.make_eq_ok_iff.mp made
      refine ⟨rfl, fun _ => ⟨congrArg (· ++ _) before, fun other member => ?_⟩, fun _ => rfl⟩
      rcases List.mem_append.mp member with inside | place
      · exact accepted other inside
      · rw [List.mem_singleton.mp place]
        exact ⟨call, builder.context, kind, made⟩

theorem Collects.foldl_push (collects : builder.Collects context program) (call : String)
    (kinds : List Kind) :
    (kinds.foldl (fun builder kind => builder.push call kind) builder).Collects context
      (program ++ kinds.map (directive context)) := by
  induction kinds generalizing builder program with
  | nil => rwa [List.map_nil, List.append_nil]
  | cons kind rest ih =>
    have first := ih (collects.push call kind)
    rwa [List.append_assoc, List.singleton_append] at first

theorem Collects.pushEach (collects : builder.Collects context program) (call : String)
    (kind : Kind) (rest : List Kind) :
    (builder.pushEach call (kind :: rest)).Collects context
      (program ++ (kind :: rest).map (directive context)) :=
  collects.foldl_push call (kind :: rest)

theorem Collects.allow (collects : builder.Collects context program) :
    builder.allow.Collects (context.withAction .allow) program :=
  ⟨congrArg (·.withAction .allow) collects.context, collects.collected, collects.clean⟩

theorem Collects.ite (collects : builder.Collects context program) (wanted : Bool) (call : String)
    (kind : Kind) :
    (if wanted then builder.push call kind else builder).Collects context
      (program ++ (if wanted then [kind] else []).map (directive context)) := by
  cases wanted with
  | false => exact (List.append_nil program).symm ▸ collects
  | true => exact collects.push call kind

theorem Collects.interface (collects : builder.Collects context program)
    (index? : Option UInt64) :
    (match index? with
      | some index => builder.interface [index]
      | none => builder).Collects context
        (program ++ (index?.toList.map Kind.interface).map (directive context)) := by
  cases index? with
  | none => exact (List.append_nil program).symm ▸ collects
  | some index => exact collects.pushEach "network_interface" (.interface index) []

theorem Collects.names (collects : builder.Collects context program) (servers : List Address) :
    (match servers with
      | [] => builder.nameResolution
      | servers => builder.nameResolutionVia servers).Collects context
        (program ++ [directive context (.nameResolution (servers.filter (!·.isUnspecified)))]) := by
  cases servers with
  | nil => exact collects.push "domain_name_system" (.nameResolution [])
  | cons server rest => exact collects.push "domain_name_system_via" _

theorem Collects.applications (collects : builder.Collects context program) (paths : List Path) :
    (if paths.isEmpty then builder else builder.application paths).Collects context
      (program ++ (paths.map Kind.application).map (directive context)) := by
  cases paths with
  | nil => exact (List.append_nil program).symm ▸ collects
  | cons path rest =>
    exact collects.pushEach "application" (.application path) (rest.map .application)

end Builder

end TrafficPolicy
