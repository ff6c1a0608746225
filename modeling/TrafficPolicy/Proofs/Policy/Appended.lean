import TrafficPolicy.Proofs.Policy.WeightSpace

/-!
# Programs that go on

What a program compiles to when more directives follow it.  The weights of a directive depend on
the earlier ones alone (`Assigned.ofProgramFrom_append`), and so do its filters, so the directives
that follow leave the compiled form of the earlier ones as it is (`Policy.compileAll_append_eq_ok`).
`Assigned.StopsAt` says at which directive the assignment of weights ends with an error, and
`Assigned.ofProgram_eq_error_iff` that it ends so at one place just if it has no outcome.
-/

namespace TrafficPolicy

namespace Assigned

variable {index least place : Nat} {program earlier later : List Directive}
  {weights : List Assigned} {error : PolicyError}

/-- The assignment of weights stops at a place: the directives before it get theirs, and the one
there cannot have its own above these. -/
def StopsAt (program : List Directive) (place : Nat) (error : PolicyError) : Prop :=
  ∃ weights directive, ofProgram (program.take place) = .ok weights ∧
    program[place]? = some directive ∧
    ofDirective place (weights.foldl advance 0) directive = .error error

theorem foldl_advance (given : ofProgramFrom index least program = .ok weights) :
    weights.foldl advance least = leastFreeFrom least program := by
  induction program generalizing index least weights with
  | nil =>
    cases given
    rfl
  | cons directive rest ih =>
    obtain ⟨sound, others, following, rfl⟩ := ofProgramFrom_cons_eq_ok.mp given
    have next : advance least (directive.weights least) = leastFreeFrom least [directive] := by
      rw [advance, toNat_weight sound]
      rfl
    rw [List.foldl_cons, next, ih following]
    rfl

/-- A program gets its weights just if the earlier directives get theirs, and the others theirs from
what those leave free. -/
theorem ofProgramFrom_append_eq_ok :
    ofProgramFrom index least (earlier ++ later) = .ok weights ↔
      ∃ first others, ofProgramFrom index least earlier = .ok first ∧
        ofProgramFrom (index + earlier.length) (leastFreeFrom least earlier) later = .ok others ∧
        weights = first ++ others := by
  constructor
  · intro given
    have first := ofProgramFrom_take given earlier.length
    rw [List.take_left] at first
    rw [ofProgramFrom_append first] at given
    cases rest :
        ofProgramFrom (index + earlier.length) (leastFreeFrom least earlier) later with
    | error error =>
      rw [rest] at given
      cases given
    | ok others =>
      rw [rest] at given
      exact ⟨_, others, first, rfl, (Except.ok.inj given).symm⟩
  · rintro ⟨first, others, before, after, rfl⟩
    rw [ofProgramFrom_append before, after]
    rfl

/-- What is wrong at a place is told by the directives up to there. -/
theorem faultAt?_take (index least : Nat) (program : List Directive) (place before : Nat) :
    faultAt? index least (program.take place) before =
      if before < place then faultAt? index least program before else none := by
  rw [faultAt?, List.getElem?_take]
  split
  next below =>
    rw [List.take_take, Nat.min_eq_left (Nat.le_of_lt below)]
    rfl
  next => rfl

/-- The assignment stops where the first fault is. -/
theorem stopsAt_iff :
    StopsAt program place error ↔ ∃ fault, faultAt? 0 0 program place = some fault ∧
      (∀ before < place, faultAt? 0 0 program before = none) ∧ error = .invalidPolicy fault := by
  have earlier_iff : (∃ weights, ofProgram (program.take place) = .ok weights) ↔
      ∀ before < place, faultAt? 0 0 program before = none := by
    refine exists_ofProgramFrom_iff.trans (forall_congr' fun before => ?_)
    rw [faultAt?_take]
    split <;> simp [*]
  constructor
  · rintro ⟨weights, directive, given, here, refused⟩
    rw [foldl_advance given, ofDirective_eq_error] at refused
    obtain ⟨fault, wrong, rfl⟩ := refused
    refine ⟨fault, Option.bind_eq_some_iff.mpr ⟨directive, here, ?_⟩,
      earlier_iff.mp ⟨weights, given⟩, rfl⟩
    rwa [Nat.zero_add]
  · rintro ⟨fault, wrong, before, rfl⟩
    obtain ⟨directive, here, wrong⟩ := Option.bind_eq_some_iff.mp wrong
    obtain ⟨weights, given⟩ := earlier_iff.mpr before
    refine ⟨weights, directive, given, here, ?_⟩
    rw [foldl_advance given, ofDirective_eq_error]
    rw [Nat.zero_add] at wrong
    exact ⟨fault, wrong, rfl⟩

/-- A program gets no weights just if the assignment stops somewhere. -/
theorem ofProgram_eq_error_iff :
    ofProgram program = .error error ↔ ∃ place, StopsAt program place error := by
  simp only [stopsAt_iff]
  exact ofProgramFrom_eq_error_iff

/-- It stops at one place only. -/
theorem StopsAt.unique {other : Nat} {otherError : PolicyError}
    (stops : StopsAt program place error) (stopsThere : StopsAt program other otherError) :
    other = place := by
  obtain ⟨fault, wrong, before, _⟩ := stopsAt_iff.mp stops
  obtain ⟨otherFault, wrongThere, beforeThere, _⟩ := stopsAt_iff.mp stopsThere
  rcases Nat.lt_trichotomy other place with below | same | above
  · cases wrongThere.symm.trans (before other below)
  · exact same
  · cases wrong.symm.trans (beforeThere place above)

theorem StopsAt.lt_length (stops : StopsAt program place error) : place < program.length := by
  obtain ⟨_, _, _, here, _⟩ := stops
  exact (List.getElem?_eq_some_iff.mp here).1

/-- What follows a place has no part in whether the assignment stops there. -/
theorem stopsAt_append_iff (inside : place < earlier.length) :
    StopsAt (earlier ++ later) place error ↔ StopsAt earlier place error := by
  rw [StopsAt, List.take_append_of_le_length (Nat.le_of_lt inside),
    List.getElem?_append_left inside, StopsAt]

end Assigned

namespace Policy

variable {resolver : Resolver}

/-- Directives compile just if the earlier and the later ones do, to what these give in a row. -/
theorem compileAll_append_eq_ok {earlier later : List (Directive × Assigned)}
    {compiled : List CompiledDirective} :
    (compileAll resolver (earlier ++ later)).result = .ok compiled ↔
      ∃ first others, (compileAll resolver earlier).result = .ok first ∧
        (compileAll resolver later).result = .ok others ∧ compiled = first ++ others := by
  induction earlier generalizing compiled with
  | nil =>
    refine ⟨fun given => ⟨[], compiled, rfl, given, rfl⟩, ?_⟩
    rintro ⟨_, others, none, given, rfl⟩
    cases none
    exact given
  | cons entry rest ih =>
    obtain ⟨directive, weight⟩ := entry
    rw [List.cons_append, compileAll_cons_eq_ok]
    simp only [ih, compileAll_cons_eq_ok]
    constructor
    · rintro ⟨filters, _, expanded, ⟨first, others, before, after, rfl⟩, rfl⟩
      exact ⟨_, others, ⟨filters, first, expanded, before, rfl⟩, after, rfl⟩
    · rintro ⟨_, others, ⟨filters, first, expanded, before, rfl⟩, after, rfl⟩
      exact ⟨filters, _, expanded, ⟨first, others, before, after, rfl⟩, rfl⟩

/-- The directives that follow a program leave it as it is: a policy of both has a directive for
each of them, and those of the program come first and are the policy of the program, each with its
kind, action, weights and filters.  What keeps the program from getting weights keeps both from it,
and where the program gets its weights but both together do not, the one directive that cannot have
its own is among those that follow. -/
theorem append_keeps (resolver : Resolver) (program following : List Directive) :
    (∀ policy, (compile resolver (program ++ following)).result = .ok policy →
      policy.directives.length = (program ++ following).length ∧
        (compile resolver program).result = .ok ⟨policy.directives.take program.length⟩) ∧
    (∀ error, Assigned.ofProgram program = .error error →
      Assigned.ofProgram (program ++ following) = .error error) ∧
    ∀ weights error, Assigned.ofProgram program = .ok weights →
      Assigned.ofProgram (program ++ following) = .error error →
        ∃ place, program.length ≤ place ∧ place < (program ++ following).length ∧
          Assigned.StopsAt (program ++ following) place error ∧
          ∀ other otherError, Assigned.StopsAt (program ++ following) other otherError →
            other = place := by
  refine ⟨fun policy compiled => ?_, fun error refused => ?_, fun weights error given refused => ?_⟩
  · obtain ⟨_, weighed, expanded⟩ := compile_eq_ok.mp compiled
    obtain ⟨weights, others, given, _, rfl⟩ := Assigned.ofProgramFrom_append_eq_ok.mp weighed
    have enough : program.length = weights.length := (Assigned.length_ofProgramFrom given).symm
    rw [List.zip_append enough, compileAll_append_eq_ok] at expanded
    obtain ⟨first, rest, before, _, both⟩ := expanded
    have alone : (compile resolver program).result = .ok ⟨first⟩ :=
      compile_eq_ok.mpr ⟨weights, given, before⟩
    have length : first.length = program.length := length_compile alone
    refine ⟨length_compile compiled, ?_⟩
    rw [both, ← length, List.take_left]
    exact alone
  · obtain ⟨place, stops⟩ := Assigned.ofProgram_eq_error_iff.mp refused
    exact Assigned.ofProgram_eq_error_iff.mpr
      ⟨place, (Assigned.stopsAt_append_iff stops.lt_length).mpr stops⟩
  · obtain ⟨place, stops⟩ := Assigned.ofProgram_eq_error_iff.mp refused
    refine ⟨place, Nat.not_lt.mp fun inside => ?_, stops.lt_length, stops, fun _ _ => stops.unique⟩
    have stopped := Assigned.ofProgram_eq_error_iff.mpr
      ⟨place, (Assigned.stopsAt_append_iff inside).mp stops⟩
    cases given.symm.trans stopped

end Policy

end TrafficPolicy
