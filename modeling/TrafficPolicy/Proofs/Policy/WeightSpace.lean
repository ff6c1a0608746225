import TrafficPolicy.Proofs.Policy.Weights

/-!
# The space of weights

The run of `Assigned.ofProgram` over a program is the decisions about its directives in a row
(`ofProgramFrom_cons`), and `leastFree` says what each of them starts from, as a number that 8 bits
may not hold.  From that it follows which directives outrank which (`ranked_of_ofProgram`), and
when the 8 bits suffice (`weighed`).
-/

namespace TrafficPolicy

/-- The least number above `least` and all weights that directives take one after the other. -/
def leastFreeFrom (least : Nat) (program : List Directive) : Nat :=
  program.foldl (fun least directive => max least (directive.ownWeight least + 1)) least

/-- The least number above all weights that the directives of a program take. -/
def leastFree (program : List Directive) : Nat :=
  leastFreeFrom 0 program

namespace Assigned

variable {index least : Nat} {directive : Directive} {assigned : Assigned}
  {program : List Directive} {weights : List Assigned}

/-! ## Programs -/

/-- The first directive is weighed by itself, and the others with what it leaves free. -/
theorem ofProgramFrom_cons (index least : Nat) (directive : Directive) (rest : List Directive) :
    ofProgramFrom index least (directive :: rest) =
      match directive.weightFault? index least with
      | some fault => .error (.invalidPolicy fault)
      | none => (ofProgramFrom (index + 1) (leastFreeFrom least [directive]) rest).map
          (directive.weights least :: ·) := by
  rw [ofProgramFrom, ofDirective_eq]
  cases sound : directive.weightFault? index least with
  | some fault => rfl
  | none =>
    have next : advance least (directive.weights least) = leastFreeFrom least [directive] := by
      rw [advance, toNat_weight sound]
      rfl
    change (ofProgramFrom (index + 1) (advance least (directive.weights least)) rest >>= _) = _
    rw [next]
    cases ofProgramFrom (index + 1) (leastFreeFrom least [directive]) rest <;> rfl

theorem ofProgramFrom_cons_eq_ok {rest : List Directive} :
    ofProgramFrom index least (directive :: rest) = .ok weights ↔
      directive.weightFault? index least = none ∧
        ∃ others, ofProgramFrom (index + 1) (leastFreeFrom least [directive]) rest = .ok others ∧
          weights = directive.weights least :: others := by
  rw [ofProgramFrom_cons]
  cases directive.weightFault? index least with
  | some fault => simp
  | none =>
    cases ofProgramFrom (index + 1) (leastFreeFrom least [directive]) rest <;>
      simp [Except.map, eq_comm]

theorem ofProgramFrom_cons_eq_error {rest : List Directive} {error : PolicyError} :
    ofProgramFrom index least (directive :: rest) = .error error ↔
      (∃ fault, directive.weightFault? index least = some fault ∧ error = .invalidPolicy fault) ∨
        directive.weightFault? index least = none ∧
          ofProgramFrom (index + 1) (leastFreeFrom least [directive]) rest = .error error := by
  rw [ofProgramFrom_cons]
  cases directive.weightFault? index least with
  | some fault => simp [eq_comm]
  | none =>
    cases ofProgramFrom (index + 1) (leastFreeFrom least [directive]) rest <;> simp [Except.map]

/-- What is wrong with the weights at place `i` of a program, if those before it are given. -/
def faultAt? (index least : Nat) (program : List Directive) (i : Nat) : Option PolicyFault :=
  program[i]?.bind (·.weightFault? (index + i) (leastFreeFrom least (program.take i)))

theorem faultAt?_cons_succ (index least : Nat) (directive : Directive) (rest : List Directive)
    (i : Nat) :
    faultAt? index least (directive :: rest) (i + 1) =
      faultAt? (index + 1) (leastFreeFrom least [directive]) rest i := by
  rw [faultAt?, faultAt?, Nat.add_assoc, Nat.add_comm 1 i]
  rfl

/-- The first fault of a program is why it gets no weights, and there is no other reason. -/
theorem ofProgramFrom_eq_error_iff {error : PolicyError} :
    ofProgramFrom index least program = .error error ↔
      ∃ i fault, faultAt? index least program i = some fault ∧
        (∀ j < i, faultAt? index least program j = none) ∧ error = .invalidPolicy fault := by
  induction program generalizing index least with
  | nil => exact ⟨nofun, fun ⟨_, _, wrong, _⟩ => nomatch wrong⟩
  | cons directive rest ih =>
    have first : faultAt? index least (directive :: rest) 0 = directive.weightFault? index least :=
      rfl
    rw [ofProgramFrom_cons_eq_error, ih, ← first]
    constructor
    · rintro (⟨fault, wrong, rfl⟩ | ⟨sound, i, fault, wrong, before, rfl⟩)
      · exact ⟨0, fault, wrong, nofun, rfl⟩
      · refine ⟨i + 1, fault, (faultAt?_cons_succ ..).trans wrong, fun j below => ?_, rfl⟩
        cases j with
        | zero => exact sound
        | succ j => exact (faultAt?_cons_succ ..).trans (before j (Nat.lt_of_succ_lt_succ below))
    · rintro ⟨i, fault, wrong, before, rfl⟩
      cases i with
      | zero => exact Or.inl ⟨fault, wrong, rfl⟩
      | succ i =>
        refine Or.inr ⟨before 0 (Nat.succ_pos i), i, fault, ?_, fun j below => ?_, rfl⟩
        · exact (faultAt?_cons_succ ..).symm.trans wrong
        · exact (faultAt?_cons_succ ..).symm.trans (before (j + 1) (Nat.succ_lt_succ below))

/-- In a program that gets its weights nothing is wrong with any directive, and each has those
that it takes after the earlier ones. -/
theorem getElem?_of_ofProgramFrom (given : ofProgramFrom index least program = .ok weights)
    {i : Nat} (here : program[i]? = some directive) :
    directive.weightFault? (index + i) (leastFreeFrom least (program.take i)) = none ∧
      weights[i]? = some (directive.weights (leastFreeFrom least (program.take i))) := by
  induction program generalizing index least weights i with
  | nil => cases here
  | cons first rest ih =>
    obtain ⟨sound, others, following, rfl⟩ := ofProgramFrom_cons_eq_ok.mp given
    cases i with
    | zero =>
      cases here
      exact ⟨sound, rfl⟩
    | succ i =>
      have later := ih following here
      rw [Nat.add_assoc, Nat.add_comm 1 i] at later
      exact later

/-- The earlier directives of a program have their weights for themselves. -/
theorem ofProgramFrom_take (given : ofProgramFrom index least program = .ok weights) (i : Nat) :
    ofProgramFrom index least (program.take i) = .ok (weights.take i) := by
  induction program generalizing index least weights i with
  | nil =>
    cases given
    rw [List.take_nil, List.take_nil]
    rfl
  | cons first rest ih =>
    obtain ⟨sound, others, following, rfl⟩ := ofProgramFrom_cons_eq_ok.mp given
    cases i with
    | zero => rfl
    | succ i => exact ofProgramFrom_cons_eq_ok.mpr ⟨sound, others.take i, ih following i, rfl⟩

/-- After directives that get their weights the others are weighed with what those leave free. -/
theorem ofProgramFrom_append {earlier : List Directive}
    (given : ofProgramFrom index least earlier = .ok weights) (later : List Directive) :
    ofProgramFrom index least (earlier ++ later) =
      (ofProgramFrom (index + earlier.length) (leastFreeFrom least earlier) later).map
        (weights ++ ·) := by
  induction earlier generalizing index least weights with
  | nil =>
    cases given
    change _ = (ofProgramFrom index least later).map id
    rw [Except.map_id]
    rfl
  | cons first rest ih =>
    obtain ⟨sound, others, following, rfl⟩ := ofProgramFrom_cons_eq_ok.mp given
    rw [List.cons_append, ofProgramFrom_cons, sound]
    change (ofProgramFrom (index + 1) (leastFreeFrom least [first]) (rest ++ later)).map _ = _
    rw [ih following, List.length_cons, Nat.add_assoc, Nat.add_comm 1]
    have step : leastFreeFrom least (first :: rest) =
        leastFreeFrom (leastFreeFrom least [first]) rest := rfl
    rw [step]
    cases ofProgramFrom (index + (rest.length + 1))
      (leastFreeFrom (leastFreeFrom least [first]) rest) later <;> rfl

/-! ## What is left free -/

/-- The weights that a directive was given. -/
def all (assigned : Assigned) : List UInt8 :=
  assigned.weight :: assigned.deny.toList

/-- The lowest weight that a directive was given. -/
def lowest (assigned : Assigned) : UInt8 :=
  assigned.deny.getD assigned.weight

/-- All weights that were given are below the least free one. -/
theorem lt_leastFreeFrom (given : ofProgramFrom index least program = .ok weights) :
    least ≤ leastFreeFrom least program ∧
      ∀ assigned ∈ weights, ∀ weight ∈ assigned.all,
        weight.toNat < leastFreeFrom least program := by
  induction program generalizing index least weights with
  | nil =>
    cases given
    exact ⟨Nat.le_refl least, nofun⟩
  | cons first rest ih =>
    obtain ⟨sound, others, following, rfl⟩ := ofProgramFrom_cons_eq_ok.mp given
    obtain ⟨above, later⟩ := ih following
    have step : leastFreeFrom least [first] = max least (first.ownWeight least + 1) := rfl
    change leastFreeFrom least [first] ≤ leastFreeFrom least (first :: rest) at above
    refine ⟨by omega, List.forall_mem_cons.mpr ⟨fun weight member => ?_, later⟩⟩
    have own : weight.toNat ≤ first.ownWeight least := by
      rcases List.mem_cons.mp member with rfl | denied
      · exact Nat.le_of_eq (toNat_weight sound)
      · cases names : first.kind.isNameResolution with
        | false =>
          rw [deny_of_not_names names] at denied
          cases denied
        | true =>
          obtain ⟨deny, is, number⟩ := toNat_deny sound names
          rw [is, Option.toList_some, List.mem_singleton] at denied
          rw [denied, number]
          exact Nat.le_of_lt (denyWeight_lt sound names)
    omega

/-- The least free weight comes right after one that was given, if any was. -/
theorem leastFreeFrom_eq (given : ofProgramFrom index least program = .ok weights) :
    leastFreeFrom least program = least ∨
      ∃ assigned ∈ weights, leastFreeFrom least program = assigned.weight.toNat + 1 := by
  induction program generalizing index least weights with
  | nil => exact Or.inl rfl
  | cons first rest ih =>
    obtain ⟨sound, others, following, rfl⟩ := ofProgramFrom_cons_eq_ok.mp given
    rcases ih following with same | ⟨assigned, member, eq⟩
    · have step : leastFreeFrom least (first :: rest) = max least (first.ownWeight least + 1) :=
        same
      rw [step, ← toNat_weight sound]
      rcases Nat.le_total least ((first.weights least).weight.toNat + 1) with above | below
      · exact Or.inr ⟨_, List.mem_cons_self, Nat.max_eq_right above⟩
      · exact Or.inl (Nat.max_eq_left below)
    · exact Or.inr ⟨assigned, List.mem_cons_of_mem _ member, eq⟩

/-- The least free weight is 0 at first, and then one more than the largest that was given. -/
theorem leastFree_eq_max (given : ofProgram program = .ok weights) :
    leastFree program = ((weights.flatMap all).map UInt8.toNat).max?.elim 0 (· + 1) := by
  have below := (lt_leastFreeFrom given).2
  cases largest : ((weights.flatMap all).map UInt8.toNat).max? with
  | none =>
    rcases leastFreeFrom_eq given with zero | ⟨assigned, member, _⟩
    · exact zero
    · rw [List.max?_eq_none_iff, List.map_eq_nil_iff, List.flatMap_eq_nil_iff] at largest
      cases largest assigned member
  | some top =>
    obtain ⟨among, above⟩ := List.max?_eq_some_iff.mp largest
    have each : ∀ assigned ∈ weights, ∀ weight ∈ assigned.all, weight.toNat ≤ top := by
      intro assigned member weight inside
      have among := List.mem_flatMap.mpr ⟨assigned, member, inside⟩
      exact above _ (List.mem_map.mpr ⟨weight, among, rfl⟩)
    obtain ⟨weight, given', rfl⟩ := List.mem_map.mp among
    obtain ⟨assigned, member, inside⟩ := List.mem_flatMap.mp given'
    have less := below assigned member weight inside
    change leastFree program = weight.toNat + 1
    rcases leastFreeFrom_eq given with zero | ⟨other, present, eq⟩
    · change weight.toNat < leastFreeFrom 0 program at less
      omega
    · have most := each other present other.weight List.mem_cons_self
      change leastFreeFrom 0 program = _
      omega

/-- One more than 8 bits hold is the most that is ever left free. -/
theorem leastFree_le (given : ofProgram program = .ok weights) : leastFree program ≤ 256 := by
  rcases leastFreeFrom_eq given with zero | ⟨assigned, _, eq⟩
  · exact Nat.le_trans (Nat.le_of_eq zero) (Nat.zero_le 256)
  · exact Nat.le_trans (Nat.le_of_eq eq) assigned.weight.toNat_lt

/-- A directive without a weight of its own takes the least free one, for its deny filters if it has
any, and then the next one for the others. -/
theorem weights_of_implicit (sound : directive.weightFault? index least = none)
    (implicit : directive.weight = .implicit) :
    if directive.kind.isNameResolution then
      (directive.weights least).deny.map UInt8.toNat = some least ∧
        (directive.weights least).weight.toNat = least + 1
    else
      (directive.weights least).deny = none ∧ (directive.weights least).weight.toNat = least := by
  cases names : directive.kind.isNameResolution with
  | false =>
    refine ⟨deny_of_not_names names, ?_⟩
    rw [toNat_weight sound, Directive.ownWeight, implicit, names]
    rfl
  | true =>
    obtain ⟨deny, denied, number⟩ := toNat_deny sound names
    rw [Directive.denyWeight, implicit] at number
    rw [if_pos rfl, toNat_weight sound, Directive.ownWeight, implicit, names, denied,
      Option.map_some, number]
    exact ⟨rfl, rfl⟩

theorem toNat_lowest (sound : directive.weightFault? index least = none)
    (implicit : directive.weight = .implicit) :
    (directive.weights least).lowest.toNat = least := by
  have taken := weights_of_implicit sound implicit
  split at taken
  · obtain ⟨deny, denied, number⟩ := Option.map_eq_some_iff.mp taken.1
    rw [lowest, denied]
    exact number
  · rw [lowest, taken.1]
    exact taken.2

/-- In a program that gets its weights every directive has those that it asks for, its deny filters
the lower one, and a directive that asks for none has only weights above all earlier ones. -/
theorem ranked_of_ofProgram (given : ofProgram program = .ok weights) :
    weights.length = program.length ∧
      ∀ i directive, program[i]? = some directive → ∃ assigned, weights[i]? = some assigned ∧
        (∀ weight, directive.weight = .fixed weight → assigned.weight = weight ∧
          (directive.kind.isNameResolution = true →
            ∃ deny, assigned.deny = some deny ∧ deny.toNat + 1 = weight.toNat)) ∧
        (∀ deny allow, directive.weight = .pair deny allow → assigned = ⟨allow, some deny⟩) ∧
        assigned.deny.isSome = directive.kind.isNameResolution ∧
        (∀ deny, assigned.deny = some deny → deny < assigned.weight) ∧
        (directive.weight = .implicit →
          ∀ earlier ∈ weights.take i, ∀ weight ∈ earlier.all, weight < assigned.lowest) := by
  refine ⟨length_ofProgramFrom given, fun i directive here => ?_⟩
  obtain ⟨sound, is⟩ := getElem?_of_ofProgramFrom given here
  have above := (lt_leastFreeFrom (ofProgramFrom_take given i)).2
  generalize leastFreeFrom 0 (program.take i) = least at sound is above
  refine ⟨_, is, fun weight fixed => ⟨?_, fun names => ?_⟩, fun deny allow pair => ?_, ?_,
    fun deny denied => ?_, fun implicit earlier before weight inside => ?_⟩
  · rw [← UInt8.toNat_inj, toNat_weight sound, Directive.ownWeight, fixed]
  · exact deny_of_fixed sound fixed names
  · have names := (Directive.weightFault?_eq_none_iff.mp sound).ordered deny allow pair |>.1
    rw [Directive.weights, Directive.ownWeight, Directive.denyWeight, pair, names]
    simp only [if_true, toUInt8_toNat]
  · rw [Directive.weights]
    cases directive.kind.isNameResolution <;> rfl
  · cases names : directive.kind.isNameResolution with
    | false =>
      rw [deny_of_not_names names] at denied
      cases denied
    | true =>
      obtain ⟨lower, is, number⟩ := toNat_deny sound names
      cases is.symm.trans denied
      rw [UInt8.lt_iff_toNat_lt, number, toNat_weight sound]
      exact denyWeight_lt sound names
  · rw [UInt8.lt_iff_toNat_lt, toNat_lowest sound implicit]
    exact above earlier before weight inside

/-- Two explicit weights out of order, and a directive on name resolution between them: it goes
above the larger one. -/
theorem ranked_between_weights :
    let program : List Directive :=
      [⟨.allow, .both, .loopback, .fixed 9⟩, ⟨.block, .both, .allTraffic, .fixed 4⟩,
        ⟨.allow, .both, .nameResolution [], .implicit⟩,
        ⟨.allow, .both, .nameResolution [], .pair 2 200⟩, ⟨.allow, .both, .ikev2, .implicit⟩]
    let weights : List Assigned :=
      [⟨9, none⟩, ⟨4, none⟩, ⟨11, some 10⟩, ⟨200, some 2⟩, ⟨201, none⟩]
    ofProgram program = .ok weights ∧
      ∀ earlier ∈ weights.take 2, ∀ weight ∈ earlier.all, weight < 10 := by
  intro program weights
  have given : ofProgram program = .ok weights := rfl
  obtain ⟨assigned, is, _, _, _, _, above⟩ :=
    (ranked_of_ofProgram given).2 2 ⟨.allow, .both, .nameResolution [], .implicit⟩ rfl
  cases is
  exact ⟨given, above rfl⟩

/-! ## Programs without weights of their own -/

theorem sum_width (program : List Directive) :
    (program.map (·.kind.width)).sum =
      program.length + program.countP (·.kind.isNameResolution) := by
  induction program with
  | nil => rfl
  | cons directive rest ih =>
    rw [List.map_cons, List.sum_cons, ih, List.length_cons, List.countP_cons, Kind.width]
    split <;> omega

theorem leastFreeFrom_of_implicit
    (implicit : ∀ directive ∈ program, directive.weight = .implicit) :
    leastFreeFrom least program = least + (program.map (·.kind.width)).sum := by
  induction program generalizing least with
  | nil => rfl
  | cons directive rest ih =>
    obtain ⟨plain, others⟩ := List.forall_mem_cons.mp implicit
    have next : leastFreeFrom least [directive] = least + directive.kind.width := by
      change max least (directive.ownWeight least + 1) = _
      rw [Directive.ownWeight_of_implicit least plain]
      exact Nat.max_eq_right (Nat.le_add_right ..)
    change leastFreeFrom (leastFreeFrom least [directive]) rest = _
    rw [ih others, next, List.map_cons, List.sum_cons, Nat.add_assoc]

/-- When a program gets its weights, and which. -/
structure Weighed (program : List Directive) : Prop where
  /-- It gets them just if each directive can have those that it asks for after the earlier ones. -/
  given_iff : (∃ weights, ofProgram program = .ok weights) ↔
    ∀ (i : Nat) (directive : Directive), program[i]? = some directive →
      directive.Fits (leastFree (program.take i))
  /-- The least free weight is 0 at first, and then one more than the largest that was given. -/
  leastFree_eq : ∀ weights, ofProgram program = .ok weights → ∀ i, leastFree (program.take i) =
    (((weights.take i).flatMap all).map UInt8.toNat).max?.elim 0 (· + 1)
  /-- That is the one which a directive without a weight of its own takes, for its deny filters if
  it has any, and then the next one for the others. -/
  implicit_eq : ∀ weights, ofProgram program = .ok weights →
    ∀ (i : Nat) (directive : Directive), program[i]? = some directive →
      directive.weight = .implicit → ∃ assigned, weights[i]? = some assigned ∧
        if directive.kind.isNameResolution then
          assigned.deny.map UInt8.toNat = some (leastFree (program.take i)) ∧
            assigned.weight.toNat = leastFree (program.take i) + 1
        else assigned.deny = none ∧ assigned.weight.toNat = leastFree (program.take i)
  /-- The error is that of the first directive that cannot have the weights that it asks for. -/
  error_iff : ∀ error, ofProgram program = .error error ↔
    ∃ (i : Nat) (directive : Directive) (fault : PolicyFault), program[i]? = some directive ∧
      directive.weightFault? i (leastFree (program.take i)) = some fault ∧
      (∀ j < i, ∀ (earlier : Directive), program[j]? = some earlier →
        earlier.Fits (leastFree (program.take j))) ∧
      error = .invalidPolicy fault
  /-- Where no directive has a weight of its own, the weights suffice for 256 directives, of which
  those on name resolution count twice. -/
  suffices_iff : (∀ directive ∈ program, directive.weight = .implicit) →
    ((∃ weights, ofProgram program = .ok weights) ↔
      program.length + program.countP (·.kind.isNameResolution) ≤ 256)
  /-- They are then given out without a gap. -/
  without_gap : (∀ directive ∈ program, directive.weight = .implicit) →
    ∀ weights, ofProgram program = .ok weights →
      ∀ (i : Nat) (directive : Directive), program[i]? = some directive →
        ∃ assigned, weights[i]? = some assigned ∧
          assigned.weight.toNat = i + (program.take i).countP (·.kind.isNameResolution) +
            if directive.kind.isNameResolution then 1 else 0
  /-- From any place the weights go on with the least free one, and it is 256 at most. -/
  goes_on : ∀ earlier later weights, program = earlier ++ later →
    ofProgram earlier = .ok weights → leastFree earlier ≤ 256 ∧
      ofProgram program =
        (ofProgramFrom earlier.length (leastFree earlier) later).map (weights ++ ·)
  /-- The weight below a fixed one is taken only where there is one. -/
  below_fixed : ∀ weights, ofProgram program = .ok weights →
    ∀ (i : Nat) (directive : Directive) (weight : UInt8), program[i]? = some directive →
      directive.weight = .fixed weight → directive.kind.isNameResolution = true →
        ∃ assigned deny, weights[i]? = some assigned ∧ assigned.deny = some deny ∧
          deny.toNat + 1 = weight.toNat

theorem faultAt?_eq_none_iff {i : Nat} :
    faultAt? index least program i = none ↔ ∀ directive, program[i]? = some directive →
      directive.Fits (leastFreeFrom least (program.take i)) := by
  rw [faultAt?, Option.bind_eq_none_iff]
  exact forall₂_congr fun _ _ => Directive.weightFault?_eq_none_iff

/-- A program gets its weights just if nothing is wrong with any directive. -/
theorem exists_ofProgramFrom_iff :
    (∃ weights, ofProgramFrom index least program = .ok weights) ↔
      ∀ i, faultAt? index least program i = none := by
  constructor
  · rintro ⟨weights, given⟩ i
    refine Option.eq_none_iff_forall_not_mem.mpr fun fault wrong => ?_
    obtain ⟨directive, here, wrong⟩ := Option.bind_eq_some_iff.mp wrong
    cases (getElem?_of_ofProgramFrom given here).1.symm.trans wrong
  · intro sound
    refine refusal?_eq_none_iff.mp (Option.eq_none_iff_forall_not_mem.mpr fun error refused => ?_)
    obtain ⟨i, fault, wrong, _⟩ := ofProgramFrom_eq_error_iff.mp (refusal?_eq_some_iff.mp refused)
    cases (sound i).symm.trans wrong

/-- Every program is weighed so: 8 bits are all that can be wanting, and nothing wraps around. -/
theorem weighed (program : List Directive) : Weighed program where
  given_iff := exists_ofProgramFrom_iff.trans (forall_congr' fun _ => faultAt?_eq_none_iff)
  leastFree_eq := fun weights given i => leastFree_eq_max (ofProgramFrom_take given i)
  implicit_eq := by
    intro weights given i directive here implicit
    obtain ⟨sound, is⟩ := getElem?_of_ofProgramFrom given here
    rw [Nat.zero_add] at sound
    exact ⟨_, is, weights_of_implicit sound implicit⟩
  error_iff := by
    intro error
    refine ofProgramFrom_eq_error_iff.trans ⟨?_, ?_⟩
    · rintro ⟨i, fault, wrong, before, rfl⟩
      obtain ⟨directive, here, wrong⟩ := Option.bind_eq_some_iff.mp wrong
      rw [Nat.zero_add] at wrong
      exact ⟨i, directive, fault, here, wrong,
        fun j below => faultAt?_eq_none_iff.mp (before j below), rfl⟩
    · rintro ⟨i, directive, fault, here, wrong, before, rfl⟩
      refine ⟨i, fault, Option.bind_eq_some_iff.mpr ⟨directive, here, ?_⟩,
        fun j below => faultAt?_eq_none_iff.mpr (before j below), rfl⟩
      rwa [Nat.zero_add]
  suffices_iff := by
    intro implicit
    rw [← sum_width]
    constructor
    · rintro ⟨weights, given⟩
      refine Nat.not_lt.mp fun exceeds => ?_
      obtain ⟨place, refused⟩ : ∃ place, ofProgram program =
          .error (.invalidPolicy (.weightsExhausted place)) :=
        exhausted_program_of_exceeds implicit (Nat.zero_le 256) (by rwa [Nat.zero_add])
      cases given.symm.trans refused
    · intro fits
      exact exists_program_of_fits implicit (by rwa [Nat.zero_add])
  without_gap := by
    intro implicit weights given i directive here
    obtain ⟨sound, is⟩ := getElem?_of_ofProgramFrom given here
    refine ⟨_, is, ?_⟩
    have plain : ∀ directive ∈ program.take i, directive.weight = .implicit :=
      fun directive member => implicit directive (List.mem_of_mem_take member)
    have length := (List.getElem?_eq_some_iff.mp here).1
    rw [toNat_weight sound, Directive.ownWeight, implicit directive (List.mem_of_getElem? here),
      leastFreeFrom_of_implicit plain, sum_width, List.length_take_of_le (Nat.le_of_lt length)]
    dsimp only
    split <;> omega
  goes_on := by
    rintro earlier later weights rfl given
    refine ⟨leastFree_le given, ?_⟩
    have rest := ofProgramFrom_append given later
    rwa [Nat.zero_add] at rest
  below_fixed := by
    intro weights given i directive weight here fixed names
    obtain ⟨sound, is⟩ := getElem?_of_ofProgramFrom given here
    obtain ⟨deny, denied, below⟩ := deny_of_fixed sound fixed names
    exact ⟨_, deny, is, denied, below⟩

end Assigned

end TrafficPolicy
