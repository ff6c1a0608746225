import TrafficPolicy.Json
import TrafficPolicy.Proofs.Address.ReadBack
import TrafficPolicy.Proofs.Policy.Conditions

/-!
# Plans tell policies

Values of conditions are printed bare, and values of different kinds may look the same: a number is
a port or a protocol, a text is an address or the name of a peer.  In a compiled policy the field
and the comparison tell which kind it is (`Condition.Typed`), so no two of them have one plan
(`Policy.eq_of_json_eq`).
-/

namespace TrafficPolicy

/-! ## Names -/

theorem Layer.name_injective : Function.Injective Layer.name := by
  intro layer other same
  cases layer <;> cases other <;> first | rfl | exact absurd same (by decide)

theorem Action.name_injective : Function.Injective Action.name := by
  intro action other same
  cases action <;> cases other <;> first | rfl | exact absurd same (by decide)

theorem Field.name_injective : Function.Injective Field.name := by
  intro field other same
  cases field <;> cases other <;> first | rfl | exact absurd same (by decide)

theorem MatchOp.name_injective : Function.Injective MatchOp.name := by
  intro op other same
  cases op <;> cases other <;> first | rfl | exact absurd same (by decide)

/-! ## Values, conditions, filters -/

/-- Equal lists are mapped from equal lists, where the function is injective on what they hold. -/
theorem eq_of_map_eq {α β : Type} {f : α → β} {P : α → Prop}
    (injective : ∀ first second, P first → P second → f first = f second → first = second)
    {list other : List α} (all : ∀ entry ∈ list, P entry) (all' : ∀ entry ∈ other, P entry)
    (same : list.map f = other.map f) : list = other := by
  induction list generalizing other with
  | nil => exact (List.map_eq_nil_iff.mp same.symm).symm
  | cons first rest ih =>
    cases other with
    | nil => cases same
    | cons second others =>
      obtain ⟨here, later⟩ := List.forall_mem_cons.mp all
      obtain ⟨here', later'⟩ := List.forall_mem_cons.mp all'
      rw [List.map_cons, List.map_cons, List.cons.injEq] at same
      rw [injective first second here here' same.1, ih later later' same.2]

/-- Values of one kind are told apart. -/
theorem Value.eq_of_json_eq {value other : Value} (kind : value.kind = other.kind)
    (same : value.json = other.json) : value = other := by
  cases value <;> cases other <;> cases kind <;>
    simp only [json, Json.number.injEq, Json.string.injEq, Json.bytes, Json.array.injEq] at same
  case u8 => rw [UInt8.toNat_inj.mp same]
  case u16 => rw [UInt16.toNat_inj.mp same]
  case u32 => rw [UInt32.toNat_inj.mp same]
  case u64 => rw [UInt64.toNat_inj.mp same]
  case address => rw [Address.text_injective same]
  case network => rw [Network.text_injective same]
  case app app other =>
    refine congrArg _ (congrArg AppId.mk (List.map_injective_iff.mpr ?_ same))
    exact fun byte other same => UInt8.toNat_inj.mp (Json.number.inj same)
  case text => rw [same]

/-- Conditions in order are told apart. -/
theorem Condition.eq_of_json_eq {condition other : Condition} (typed : condition.Typed)
    (typed' : other.Typed) (same : condition.json = other.json) : condition = other := by
  obtain ⟨field, op, value⟩ := condition
  obtain ⟨field', op', value'⟩ := other
  simp only [json, Json.object.injEq, List.cons.injEq, Prod.mk.injEq, Json.string.injEq, true_and,
    and_true] at same
  obtain ⟨fields, ops, values⟩ := same
  cases Field.name_injective fields
  cases MatchOp.name_injective ops
  have kind : value.kind = value'.kind := Option.some.inj (typed.symm.trans typed')
  rw [Value.eq_of_json_eq kind values]

theorem Filter.eq_of_json_eq {filter other : Filter} (typed : filter.Typed) (typed' : other.Typed)
    (same : filter.json = other.json) : filter = other := by
  obtain ⟨layer, action, weight, conditions, name⟩ := filter
  obtain ⟨layer', action', weight', conditions', name'⟩ := other
  simp only [json, Json.object.injEq, List.cons.injEq, Prod.mk.injEq, Json.string.injEq,
    Json.number.injEq, Json.array.injEq, true_and, and_true] at same
  obtain ⟨layers, actions, weights, lists, names⟩ := same
  cases Layer.name_injective layers
  cases Action.name_injective actions
  cases UInt8.toNat_inj.mp weights
  cases eq_of_map_eq (fun _ _ => Condition.eq_of_json_eq) typed typed' lists
  cases names
  rfl

theorem CompiledDirective.eq_of_json_eq {directive other : CompiledDirective}
    (typed : ∀ filter ∈ directive.filters, filter.Typed)
    (typed' : ∀ filter ∈ other.filters, filter.Typed) (same : directive.json = other.json) :
    directive = other := by
  obtain ⟨kind, action, ⟨weight, deny⟩, filters⟩ := directive
  obtain ⟨kind', action', ⟨weight', deny'⟩, filters'⟩ := other
  -- an entry without a deny weight has one field less
  have parts : kind = kind' ∧ action.name = action'.name ∧ weight.toNat = weight'.toNat ∧
      deny = deny' ∧ filters.map Filter.json = filters'.map Filter.json := by
    cases deny with
    | none => cases deny' <;> simp [json] at same ⊢; exact same
    | some weight => cases deny' <;> simp [json, UInt8.toNat_inj] at same ⊢; exact same
  obtain ⟨rfl, actions, weights, rfl, lists⟩ := parts
  cases Action.name_injective actions
  cases UInt8.toNat_inj.mp weights
  cases eq_of_map_eq (fun _ _ => Filter.eq_of_json_eq) typed typed' lists
  rfl

/-- Compiled policies with one plan are one policy. -/
theorem Policy.eq_of_json_eq {resolver resolver' : Resolver} {program program' : List Directive}
    {policy policy' : Policy} (compiled : (Policy.compile resolver program).result = .ok policy)
    (compiled' : (Policy.compile resolver' program').result = .ok policy')
    (same : policy.json = policy'.json) : policy = policy' := by
  obtain ⟨_, _, entries⟩ := Policy.compile_eq_ok.mp compiled
  obtain ⟨_, _, entries'⟩ := Policy.compile_eq_ok.mp compiled'
  have directives := eq_of_map_eq (fun _ _ => CompiledDirective.eq_of_json_eq)
    (Policy.typed_compileAll entries) (Policy.typed_compileAll entries') (Json.array.inj same)
  exact congrArg Policy.mk directives

end TrafficPolicy
