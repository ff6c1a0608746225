import Mathlib.Algebra.GroupWithZero.Nat
import Mathlib.Tactic.MkIffOfInductiveProp
import TrafficPolicy.Proofs.Policy.Compile

/-!
# The weights of a program

Which weights a directive takes is decided by the least weight above all earlier ones
(`Directive.weights`), and so is whether it can have them (`Directive.weightFault?`).  Every entry
of a program has its weights from `Assigned.ofDirective`, at some place, so a fact about the weights
of one directive is one about all (`exists_ofDirective_of_mem_zip`).

Directives without weights of their own take as many as their kind has (`Kind.width`), from the
least free one on.  A program of such directives has its weights just if the 256 weights suffice
for all.
-/

namespace TrafficPolicy

/-- How many weights a directive of a kind takes. -/
def Kind.width (kind : Kind) : Nat :=
  if kind.isNameResolution then 2 else 1

namespace Directive

/-- The weight that a directive takes for its filters, `least` being the least weight above all
earlier ones.  It may be too large for a weight. -/
def ownWeight (least : Nat) (directive : Directive) : Nat :=
  match directive.weight with
  | .implicit => if directive.kind.isNameResolution then least + 1 else least
  | .fixed weight => weight.toNat
  | .pair _ allow => allow.toNat

theorem ownWeight_of_implicit (least : Nat) {directive : Directive}
    (implicit : directive.weight = .implicit) :
    directive.ownWeight least + 1 = least + directive.kind.width := by
  rw [ownWeight, implicit, Kind.width]
  dsimp only
  split <;> rfl

/-- The weight that a directive on name resolution takes for its deny filters. -/
def denyWeight (least : Nat) (directive : Directive) : Nat :=
  match directive.weight with
  | .implicit => least
  | .fixed weight => weight.toNat - 1
  | .pair deny _ => deny.toNat

/-- The weights that a directive takes. -/
def weights (least : Nat) (directive : Directive) : Assigned where
  weight := (directive.ownWeight least).toUInt8
  deny :=
    if directive.kind.isNameResolution then some (directive.denyWeight least).toUInt8 else none

/-- Why the directive at `index` cannot have the weights that it asks for. -/
def weightFault? (index least : Nat) (directive : Directive) : Option PolicyFault :=
  match directive.weight, directive.kind.isNameResolution with
  | .implicit, _ => if directive.ownWeight least ≤ 255 then none else some (.weightsExhausted index)
  | .fixed _, false => none
  | .fixed weight, true => if weight = 0 then some (.zeroNameWeight index) else none
  | .pair deny allow, true =>
    if deny < allow then none else some (.weightsNotOrdered deny allow)
  | .pair _ _, false => some (.pairMisplaced index directive.kind.name)

/-- A directive can have the weights that it asks for, `least` being the least weight above all
earlier ones. -/
@[mk_iff]
structure Fits (least : Nat) (directive : Directive) : Prop where
  /-- Only name resolution takes a pair, with the deny weight below the other. -/
  ordered : ∀ deny allow, directive.weight = .pair deny allow →
    directive.kind.isNameResolution = true ∧ deny < allow
  /-- The weight 0 leaves no room for deny filters. -/
  positive : directive.kind.isNameResolution = true → directive.weight ≠ .fixed 0
  /-- 8 bits hold the next weight, and for name resolution the one after it. -/
  room : directive.weight = .implicit →
    least ≤ if directive.kind.isNameResolution then 254 else 255

theorem weightFault?_eq_none_iff {index least : Nat} {directive : Directive} :
    directive.weightFault? index least = none ↔ directive.Fits least := by
  rw [weightFault?, fits_iff]
  cases hint : directive.weight with
  | implicit =>
    have room : directive.ownWeight least ≤ 255 ↔
        least ≤ if directive.kind.isNameResolution then 254 else 255 := by
      rw [ownWeight, hint]
      dsimp only
      split <;> omega
    simp [room]
  | fixed weight => cases directive.kind.isNameResolution <;> simp
  | pair deny allow => cases directive.kind.isNameResolution <;> simp

end Directive

namespace Assigned

variable {index least : Nat} {directive : Directive} {assigned : Assigned}
  {program : List Directive} {weights : List Assigned}

/-! ## One directive -/

theorem toUInt8_toNat (weight : UInt8) : weight.toNat.toUInt8 = weight :=
  UInt8.ofNat_toNat

theorem toNat_toUInt8 {number : Nat} (small : number ≤ 255) : number.toUInt8.toNat = number :=
  UInt8.toNat_ofNat_of_lt' (Nat.lt_succ_of_le small)

theorem toNat_pred {weight : UInt8} (positive : weight ≠ 0) :
    (weight - 1).toNat = weight.toNat - 1 := by
  have : 1 ≤ weight := by
    rw [UInt8.le_iff_toNat_le]
    exact Nat.pos_of_ne_zero fun zero => positive (UInt8.toNat_inj.mp zero)
  exact UInt8.toNat_sub_of_le _ _ this

/-- A directive has the weights that it takes, unless something is wrong with them. -/
theorem ofDirective_eq (index least : Nat) (directive : Directive) :
    ofDirective index least directive =
      match directive.weightFault? index least with
      | some fault => .error (.invalidPolicy fault)
      | none => .ok (directive.weights least) := by
  have slots : ∀ number, slot index number = if number ≤ 255 then .ok number.toUInt8
      else .error (.invalidPolicy (.weightsExhausted index)) := fun number => by
    simp only [slot, Nat.lt_succ_iff]
  rw [ofDirective, Directive.weightFault?, Directive.weights, Directive.denyWeight,
    Directive.ownWeight]
  cases hint : directive.weight with
  | implicit =>
    cases names : directive.kind.isNameResolution with
    | false =>
      simp only [slots, Bool.false_eq_true, if_false]
      by_cases fits : least ≤ 255
      · simp only [if_pos fits]
        rfl
      · simp only [if_neg fits]
        rfl
    | true =>
      simp only [slots, if_true]
      by_cases fits : least + 1 ≤ 255
      · have below : least.toUInt8 < (least + 1).toUInt8 := by
          rw [UInt8.lt_iff_toNat_lt, toNat_toUInt8 fits, toNat_toUInt8 (by omega)]
          exact Nat.lt_succ_self least
        simp only [if_pos fits, if_pos (show least ≤ 255 by omega)]
        exact if_pos below
      · simp only [if_neg fits]
        split <;> rfl
  | fixed weight =>
    cases names : directive.kind.isNameResolution with
    | false => simp
    | true =>
      by_cases zero : weight = 0
      · simp only [zero, if_true]
      · have same : (weight.toNat - 1).toUInt8 = weight - 1 := by
          rw [← toNat_pred zero, toUInt8_toNat]
        have below : weight - 1 < weight := by
          rw [UInt8.lt_iff_toNat_lt, toNat_pred zero]
          have : weight.toNat ≠ 0 := fun none => zero (UInt8.toNat_inj.mp none)
          omega
        simp only [zero, if_true, if_false, toUInt8_toNat, same]
        exact if_pos below
  | pair deny allow =>
    cases names : directive.kind.isNameResolution with
    | false => rfl
    | true =>
      simp only [ofPair, if_true, toUInt8_toNat]
      split <;> rfl

/-- Where nothing is wrong, 8 bits hold the weights of a directive. -/
theorem ownWeight_le (sound : directive.weightFault? index least = none) :
    directive.ownWeight least ≤ 255 := by
  rw [Directive.weightFault?] at sound
  cases hint : directive.weight with
  | implicit =>
    refine Decidable.of_not_not fun exceeds => ?_
    simp only [hint, if_neg exceeds] at sound
    cases sound
  | fixed weight =>
    rw [Directive.ownWeight, hint]
    exact Nat.le_of_lt_succ weight.toNat_lt
  | pair deny allow =>
    rw [Directive.ownWeight, hint]
    exact Nat.le_of_lt_succ allow.toNat_lt

/-- Where nothing is wrong, the deny filters of name resolution have a lower weight. -/
theorem denyWeight_lt (sound : directive.weightFault? index least = none)
    (names : directive.kind.isNameResolution = true) :
    directive.denyWeight least < directive.ownWeight least := by
  rw [Directive.weightFault?, names] at sound
  rw [Directive.denyWeight, Directive.ownWeight, names]
  cases hint : directive.weight with
  | implicit => exact Nat.lt_succ_self least
  | fixed weight =>
    simp only [hint] at sound ⊢
    split at sound
    next => cases sound
    next positive =>
      have : weight.toNat ≠ 0 := fun zero => positive (UInt8.toNat_inj.mp zero)
      omega
  | pair deny allow =>
    simp only [hint] at sound ⊢
    split at sound
    next below => exact UInt8.lt_iff_toNat_lt.mp below
    next => cases sound

theorem toNat_weight (sound : directive.weightFault? index least = none) :
    (directive.weights least).weight.toNat = directive.ownWeight least :=
  toNat_toUInt8 (ownWeight_le sound)

theorem deny_of_not_names (names : directive.kind.isNameResolution = false) :
    (directive.weights least).deny = none := by
  rw [Directive.weights, names]
  rfl

theorem toNat_deny (sound : directive.weightFault? index least = none)
    (names : directive.kind.isNameResolution = true) :
    ∃ deny, (directive.weights least).deny = some deny ∧
      deny.toNat = directive.denyWeight least :=
  ⟨_, if_pos names, toNat_toUInt8
    (Nat.le_trans (Nat.le_of_lt (denyWeight_lt sound names)) (ownWeight_le sound))⟩

/-- A fixed weight leaves the one below it for the deny filters, so it is not 0. -/
theorem deny_of_fixed {weight : UInt8} (sound : directive.weightFault? index least = none)
    (fixed : directive.weight = .fixed weight) (names : directive.kind.isNameResolution = true) :
    ∃ deny, (directive.weights least).deny = some deny ∧ deny.toNat + 1 = weight.toNat := by
  obtain ⟨deny, denied, number⟩ := toNat_deny sound names
  have below := denyWeight_lt sound names
  simp only [Directive.denyWeight, Directive.ownWeight, fixed] at below number
  exact ⟨deny, denied, by omega⟩

theorem ofDirective_eq_ok : ofDirective index least directive = .ok assigned ↔
    directive.weightFault? index least = none ∧ assigned = directive.weights least := by
  rw [ofDirective_eq]
  cases directive.weightFault? index least <;> simp [eq_comm]

theorem ofDirective_eq_error {error : PolicyError} :
    ofDirective index least directive = .error error ↔
      ∃ fault, directive.weightFault? index least = some fault ∧ error = .invalidPolicy fault := by
  rw [ofDirective_eq]
  cases directive.weightFault? index least <;> simp [eq_comm]

/-- The deny filters of name resolution have a weight, and it is below that of the others. -/
theorem exists_deny (given : ofDirective index least directive = .ok assigned)
    (names : directive.kind.isNameResolution = true) :
    ∃ deny, assigned.deny = some deny ∧ deny < assigned.weight := by
  obtain ⟨sound, rfl⟩ := ofDirective_eq_ok.mp given
  obtain ⟨deny, denied, number⟩ := toNat_deny sound names
  refine ⟨deny, denied, UInt8.lt_iff_toNat_lt.mpr ?_⟩
  rw [number, toNat_weight sound]
  exact denyWeight_lt sound names

/-- A directive without a weight of its own takes weights from the least free one on. -/
theorem of_implicit (implicit : directive.weight = .implicit)
    (given : ofDirective index least directive = .ok assigned) :
    least ≤ assigned.weight.toNat ∧ ∀ deny, assigned.deny = some deny →
      least ≤ deny.toNat ∧ deny.toNat < assigned.weight.toNat := by
  obtain ⟨sound, rfl⟩ := ofDirective_eq_ok.mp given
  rw [toNat_weight sound]
  cases names : directive.kind.isNameResolution with
  | false =>
    rw [deny_of_not_names names, Directive.ownWeight, implicit, names]
    exact ⟨Nat.le_refl least, nofun⟩
  | true =>
    obtain ⟨lower, is, number⟩ := toNat_deny sound names
    have below := denyWeight_lt sound names
    rw [Directive.denyWeight, implicit] at number below
    refine ⟨Nat.le_of_lt below, fun deny denied => ?_⟩
    cases is.symm.trans denied
    exact ⟨Nat.le_of_eq number.symm, number ▸ below⟩

/-- A directive that fits in gets its weights, and the next one starts right above them. -/
theorem exists_of_fits (implicit : directive.weight = .implicit)
    (fits : least + directive.kind.width ≤ 256) :
    ∃ assigned, ofDirective index least directive = .ok assigned ∧
      advance least assigned = least + directive.kind.width := by
  have own := Directive.ownWeight_of_implicit least implicit
  have sound : directive.weightFault? index least = none := by
    rw [Directive.weightFault?, implicit]
    exact if_pos (by omega)
  refine ⟨_, ofDirective_eq_ok.mpr ⟨sound, rfl⟩, ?_⟩
  rw [advance, toNat_weight sound]
  omega

/-- Where a directive does not fit in, the weights are exhausted. -/
theorem exhausted_of_exceeds (implicit : directive.weight = .implicit)
    (exceeds : 256 < least + directive.kind.width) :
    ofDirective index least directive = .error (.invalidPolicy (.weightsExhausted index)) := by
  have own := Directive.ownWeight_of_implicit least implicit
  refine ofDirective_eq_error.mpr ⟨_, ?_, rfl⟩
  rw [Directive.weightFault?, implicit]
  exact if_neg (by omega)

/-! ## Programs -/

theorem length_ofProgramFrom (assigned : ofProgramFrom index least program = .ok weights) :
    weights.length = program.length := by
  induction program generalizing index least weights with
  | nil =>
    cases assigned
    rfl
  | cons directive rest ih =>
    obtain ⟨first, _, others⟩ := bind_eq_ok.mp assigned
    obtain ⟨later, following, eq⟩ := bind_eq_ok.mp others
    cases eq
    rw [List.length_cons, List.length_cons, ih following]

/-- Each entry of a program has its weights for itself, at some place and with some weights taken.
-/
theorem exists_ofDirective_of_mem_zip
    (assigned : ofProgramFrom index least program = .ok weights)
    {entry : Directive × Assigned} (member : entry ∈ program.zip weights) :
    ∃ index least, ofDirective index least entry.1 = .ok entry.2 := by
  induction program generalizing index least weights with
  | nil => cases member
  | cons directive rest ih =>
    obtain ⟨first, given, others⟩ := bind_eq_ok.mp assigned
    obtain ⟨later, following, eq⟩ := bind_eq_ok.mp others
    cases eq
    rw [List.zip_cons_cons] at member
    rcases List.mem_cons.mp member with rfl | inside
    · exact ⟨index, least, given⟩
    · exact ih following inside

theorem exists_fault_of_ofProgramFrom {error : PolicyError}
    (refused : ofProgramFrom index least program = .error error) :
    ∃ fault, error = .invalidPolicy fault := by
  induction program generalizing index least with
  | nil => cases refused
  | cons directive rest ih =>
    rw [ofProgramFrom] at refused
    simp only [bind_eq_error] at refused
    rcases refused with first | ⟨assigned, _, others | ⟨_, _, none⟩⟩
    · obtain ⟨fault, _, eq⟩ := ofDirective_eq_error.mp first
      exact ⟨fault, eq⟩
    · exact ih others
    · cases none

/-! ## Programs without weights of their own -/

theorem exists_program_of_fits (implicit : ∀ directive ∈ program, directive.weight = .implicit)
    (fits : least + (program.map (·.kind.width)).sum ≤ 256) :
    ∃ weights, ofProgramFrom index least program = .ok weights := by
  induction program generalizing index least with
  | nil => exact ⟨[], rfl⟩
  | cons directive rest ih =>
    obtain ⟨plain, others⟩ := List.forall_mem_cons.mp implicit
    rw [List.map_cons, List.sum_cons] at fits
    obtain ⟨first, given, next⟩ := @exists_of_fits index least directive plain (by omega)
    obtain ⟨later, following⟩ := @ih (index + 1) (advance least first) others (by omega)
    exact ⟨first :: later, bind_eq_ok.mpr ⟨first, given, bind_eq_ok.mpr ⟨later, following, rfl⟩⟩⟩

theorem exhausted_program_of_exceeds
    (implicit : ∀ directive ∈ program, directive.weight = .implicit) (room : least ≤ 256)
    (exceeds : 256 < least + (program.map (·.kind.width)).sum) :
    ∃ place, ofProgramFrom index least program =
      .error (.invalidPolicy (.weightsExhausted place)) := by
  induction program generalizing index least with
  | nil =>
    rw [List.map_nil, List.sum_nil] at exceeds
    omega
  | cons directive rest ih =>
    obtain ⟨plain, others⟩ := List.forall_mem_cons.mp implicit
    rw [List.map_cons, List.sum_cons] at exceeds
    by_cases fits : least + directive.kind.width ≤ 256
    · obtain ⟨first, given, next⟩ := @exists_of_fits index least directive plain fits
      obtain ⟨place, refused⟩ :=
        @ih (index + 1) (advance least first) others (by omega) (by omega)
      exact ⟨place,
        bind_eq_error.mpr (Or.inr ⟨first, given, bind_eq_error.mpr (Or.inl refused)⟩)⟩
    · have refused := @exhausted_of_exceeds index least directive plain (Nat.not_le.mp fits)
      exact ⟨index, bind_eq_error.mpr (Or.inl refused)⟩

end Assigned

/-- A policy has one directive for each of its program. -/
theorem Policy.length_compile {resolver : Resolver} {program : List Directive} {policy : Policy}
    (compiled : (compile resolver program).result = .ok policy) :
    policy.directives.length = program.length := by
  obtain ⟨weights, weighed, expanded⟩ := compile_eq_ok.mp compiled
  rw [length_compileAll expanded, List.length_zip, Assigned.length_ofProgramFrom weighed,
    Nat.min_self]

end TrafficPolicy
