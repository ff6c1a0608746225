import TrafficPolicy.Proofs.Policy.Expands

/-!
# Conditions of compiled policies

A condition compares a field with a value, and not every value can be compared with every field.
`MatchOp.kind?` says which kind of value goes with a comparison of a field, so that a condition is
in order if its value is of that kind (`Condition.Typed`).  The conditions that directives expand
to are (`Directive.typed_expand`).
-/

namespace TrafficPolicy

/-- The kinds of values that fields are compared with. -/
inductive ValueKind where
  | u8
  | u16
  | u32
  | u64
  | address
  | network
  | app
  | text
  deriving DecidableEq, Repr

/-- The kind of a value. -/
def Value.kind : Value → ValueKind
  | .u8 _ => .u8
  | .u16 _ => .u16
  | .u32 _ => .u32
  | .u64 _ => .u64
  | .address _ => .address
  | .network _ => .network
  | .app _ => .app
  | .text _ => .text

/-- The kind of the values that a comparison of a field is with, if there is such a comparison. -/
def MatchOp.kind? : MatchOp → Field → Option ValueKind
  | .equal, .remotePort => some .u16
  | .equal, .protocol => some .u8
  | .equal, .remoteAddress | .equal, .localAddress => some .address
  | .equal, .appId => some .app
  | .equal, .peerName => some .text
  | .equal, .localInterface => some .u64
  | .flagsAllSet, .flags => some .u32
  | .inNetwork, .remoteAddress | .inNetwork, .localAddress => some .network
  | _, _ => none

/-- The value of a condition fits its field and its comparison. -/
def Condition.Typed (condition : Condition) : Prop :=
  condition.op.kind? condition.field = some condition.value.kind

instance : DecidablePred Condition.Typed :=
  fun condition => inferInstanceAs (Decidable (condition.op.kind? condition.field = _))

/-- All conditions of a filter are in order. -/
def Filter.Typed (filter : Filter) : Prop :=
  ∀ condition ∈ filter.conditions, condition.Typed

/-! ## The filters of directives -/

namespace Rules

variable {action : Action} {weight : UInt8} {conditions : List Condition}

theorem typed_map (typed : ∀ condition ∈ conditions, condition.Typed) (what : String)
    (layers : List Layer) :
    ∀ filter ∈ layers.map (Rules.filter action weight conditions what), filter.Typed := by
  intro filter member
  obtain ⟨layer, _, rfl⟩ := List.mem_map.mp member
  exact typed

theorem typed_subnet (action : Action) (weight : UInt8) {field : Field}
    (side : field = .localAddress ∨ field = .remoteAddress) (network : Network) :
    ∀ filter ∈ subnet action field weight network, filter.Typed := by
  refine typed_map (List.forall_mem_singleton.mpr ?_) _ _
  rcases side with rfl | rfl <;> rfl

theorem typed_addresses (action : Action) (weight : UInt8) (list : List Address) :
    ∀ filter ∈ addresses action weight list, filter.Typed := by
  intro filter member
  obtain ⟨address, _, inside⟩ := List.mem_flatMap.mp member
  exact typed_map (List.forall_mem_singleton.mpr (by exact rfl)) _ _ filter inside

theorem typed_nameConditions : ∀ condition ∈ nameConditions, condition.Typed := by
  decide

theorem typed_allowNames (weight : UInt8) (servers : List Address) (family : Family) :
    ∀ filter ∈ allowNames weight servers family, filter.Typed := by
  rw [allowNames]
  split
  next => exact nofun
  next =>
    refine typed_map (List.forall_mem_append.mpr ⟨typed_nameConditions, ?_⟩) _ _
    exact List.forall_mem_map.mpr fun server _ => rfl

end Rules

/-- The conditions that directives expand to are in order. -/
theorem Directive.typed_expand {resolver : Resolver} {directive : Directive} {assigned : Assigned}
    {filters : List Filter}
    (expanded : (directive.expand resolver assigned).result = .ok filters) :
    ∀ filter ∈ filters, filter.Typed := by
  cases expand_eq_ok.mp expanded with
  | allTraffic scope => exact Rules.typed_map (List.forall_mem_nil _) _ _
  | loopback scope => exact Rules.typed_map (by decide) _ _
  | localAreaNetwork =>
    intro filter member
    obtain ⟨network, _, inside⟩ := List.mem_flatMap.mp member
    exact Rules.typed_subnet _ _ (Or.inr rfl) network filter inside
  | nameResolution =>
    exact List.forall_mem_append.mpr ⟨Rules.typed_map Rules.typed_nameConditions _ _,
      List.forall_mem_append.mpr
        ⟨Rules.typed_allowNames _ _ _, Rules.typed_allowNames _ _ _⟩⟩
  | application => exact Rules.typed_map (List.forall_mem_singleton.mpr (by exact rfl)) _ _
  | peerName =>
    exact List.forall_mem_singleton.mpr (List.forall_mem_singleton.mpr (by exact rfl))
  | hostName => exact Rules.typed_addresses _ _ _
  | addresses => exact Rules.typed_addresses _ _ _
  | ikev2 =>
    exact List.forall_mem_append.mpr ⟨Rules.typed_subnet _ _ (Or.inl rfl) _,
      Rules.typed_map (by decide) _ _⟩
  | tcpPort | udpPort =>
    exact Rules.typed_map (by simp [Condition.Typed]; exact ⟨rfl, rfl⟩) _ _
  | localSubnet => exact Rules.typed_subnet _ _ (Or.inl rfl) _
  | remoteSubnet => exact Rules.typed_subnet _ _ (Or.inr rfl) _
  | interface => exact Rules.typed_map (List.forall_mem_singleton.mpr (by exact rfl)) _ _

/-- In a compiled policy all conditions are in order. -/
theorem Policy.typed_compileAll {resolver : Resolver} {entries : List (Directive × Assigned)}
    {directives : List CompiledDirective}
    (compiled : (Policy.compileAll resolver entries).result = .ok directives) :
    ∀ directive ∈ directives, ∀ filter ∈ directive.filters, filter.Typed := by
  induction entries generalizing directives with
  | nil =>
    cases compiled
    exact nofun
  | cons entry rest ih =>
    obtain ⟨filters, others, expanded, following, rfl⟩ := Policy.compileAll_cons_eq_ok.mp compiled
    exact List.forall_mem_cons.mpr ⟨Directive.typed_expand expanded, ih following⟩

end TrafficPolicy
