import TrafficPolicy.Proofs.Engine.Ranking
import TrafficPolicy.Proofs.Engine.Renaming

/-!
# Deliveries

A session may add filters under a namespace at once or in transactions.  `Memory.deliver` makes the
calls of such a session one after the other.  `Memory.Supplied` says which filters the engine has in
force, or will have once the transaction of the session is committed; each step adds its own filter
to these under the next number (`Supplied.step`), and no step takes one away as long as no call is
made to fail.  So in the end the new filters are in force after the old ones in the order in which
they were added, however they were put into transactions (`Delivers.filters_eq`).
-/

namespace TrafficPolicy

/-- A step of a session that adds filters. -/
inductive Delivery where
  | add (filter : Filter)
  | begin
  | commit
  deriving DecidableEq, Repr

namespace Delivery

/-- The call that makes the step, with filters going under a namespace. -/
def call (ns : Namespace) : Delivery → Call
  | add filter => .addFilter ns filter
  | begin => .begin
  | commit => .commit

/-- The filter that a step adds. -/
def filter? : Delivery → Option Filter
  | add filter => some filter
  | begin | commit => none

end Delivery

/-- Filters under a namespace, with the numbers that come after `last`. -/
def Namespace.numbered (ns : Namespace) (last : FilterId) : List Filter → List Stored
  | [] => []
  | filter :: rest => ⟨last + 1, ns, filter⟩ :: ns.numbered (last + 1) rest

namespace Namespace

variable {ns : Namespace}

theorem numbered_append (last : FilterId) (earlier later : List Filter) :
    ns.numbered last (earlier ++ later) =
      ns.numbered last earlier ++ ns.numbered (last + earlier.length) later := by
  induction earlier generalizing last with
  | nil => rfl
  | cons filter rest ih =>
    rw [List.cons_append, numbered, ih, numbered, List.length_cons, Nat.add_right_comm last,
      Nat.add_assoc last, List.cons_append]

theorem map_numbered (last : FilterId) (filters : List Filter) :
    (ns.numbered last filters).map (·.filter) = filters := by
  induction filters generalizing last with
  | nil => rfl
  | cons filter rest ih => exact congrArg (filter :: ·) (ih (last + 1))

theorem lt_of_mem_numbered {last : FilterId} {filters : List Filter} {stored : Stored}
    (member : stored ∈ ns.numbered last filters) : last < stored.id := by
  induction filters generalizing last with
  | nil => cases member
  | cons filter rest ih =>
    rcases List.mem_cons.mp member with rfl | later
    · exact Nat.lt_succ_self last
    · exact Nat.lt_of_succ_lt (ih later)

theorem pairwise_numbered (last : FilterId) (filters : List Filter) :
    (ns.numbered last filters).Pairwise (·.id < ·.id) := by
  induction filters generalizing last with
  | nil => exact List.Pairwise.nil
  | cons filter rest ih =>
    exact List.pairwise_cons.mpr ⟨fun _ later => lt_of_mem_numbered later, ih (last + 1)⟩

end Namespace

namespace Memory

/-- Makes the steps of a session one after the other, and gives all answers. -/
def deliver (id : SessionId) (ns : Namespace) (memory : Memory) :
    List Delivery → List (Except EngineError Given) × Memory
  | [] => ([], memory)
  | delivery :: rest =>
    let outcome := memory.step (.call id (delivery.call ns))
    let others := deliver id ns outcome.2 rest
    (outcome.1 :: others.1, others.2)

/-- Steps of a session that add these filters, in this order: no call is made to fail, and in the
end no transaction is open. -/
structure Delivers (memory : Memory) (id : SessionId) (ns : Namespace) (filters : List Filter)
    (steps : List Delivery) : Prop where
  brings : steps.filterMap Delivery.filter? = filters
  spared : .error .injectedAddFilter ∉ (memory.deliver id ns steps).1
  passing : .error .injectedCommit ∉ (memory.deliver id ns steps).1
  ended : (memory.deliver id ns steps).2.session? id = some ⟨id, none⟩

theorem Sound.deliver {memory : Memory} (sound : memory.Sound) (id : SessionId) (ns : Namespace)
    (steps : List Delivery) : (memory.deliver id ns steps).2.Sound := by
  induction steps generalizing memory with
  | nil => exact sound
  | cons delivery rest ih => exact ih (sound.call id (delivery.call ns))

/-- A session is open and may add filters under a namespace.  The filters in force and those that
wait in its transaction are `stored`. -/
structure Supplied (memory : Memory) (session : Session) (ns : Namespace) (stored : List Stored) :
    Prop where
  found : memory.session? session.id = some session
  known : memory.sublayerKnown session ns = true
  perm : (session.writes.filterMap Write.stored? ++ memory.filters).Perm stored

section Deliveries

variable {memory : Memory} {session : Session} {ns : Namespace} {stored : List Stored}

theorem sublayerKnown_iff :
    memory.sublayerKnown session ns = true ↔
      Write.sublayer ns.sublayer ns.provider ∈ memory.registered ∨
        Write.sublayer ns.sublayer ns.provider ∈ session.writes := by
  rw [sublayerKnown, Bool.or_eq_true, List.contains_iff_mem, List.contains_iff_mem,
    sublayer_mem_registered]
  rfl

theorem session?_restaged (found : memory.session? session.id = some session)
    (staged : Option (List Write)) :
    (memory.setStaged session.id staged).session? session.id = some { session with staged } := by
  rw [session?_setStaged, if_pos rfl, found]
  rfl

/-- A transaction that begins changes nothing. -/
theorem Supplied.begin (supplied : Supplied memory session ns stored) :
    ∃ staged, Supplied (Memory.call session.id .begin memory).2 { session with staged } ns stored ∧
      (Memory.call session.id .begin memory).2.lastFilter = memory.lastFilter := by
  obtain ⟨found, known, perm⟩ := supplied
  rw [call_of_session? found]
  obtain ⟨id, staged⟩ := session
  cases staged with
  | some waiting => exact ⟨some waiting, ⟨found, known, perm⟩, rfl⟩
  | none => exact ⟨some [], ⟨session?_restaged found (some []), known, perm⟩, rfl⟩

/-- A commit that is not made to fail brings into force what waits. -/
theorem Supplied.commit (supplied : Supplied memory session ns stored) (sound : memory.Sound)
    (passing : (Memory.call session.id .commit memory).1 ≠ .error .injectedCommit) :
    Supplied (Memory.call session.id .commit memory).2 { session with staged := none } ns stored ∧
      (Memory.call session.id .commit memory).2.lastFilter = memory.lastFilter := by
  obtain ⟨found, known, perm⟩ := supplied
  rw [call_of_session? found] at passing ⊢
  obtain ⟨id, staged⟩ := session
  cases staged with
  | none => exact ⟨⟨found, known, perm⟩, rfl⟩
  | some waiting =>
    have counted : ({ memory with calls := memory.calls + 1 } : Memory).Sound :=
      sound.grow rfl rfl rfl rfl (Nat.le_refl _) (Nat.le_refl _) (Nat.le_refl _)
    have tables := registered_foldl_apply id (counted.nodup_unstaged found)
    simp only [perform] at passing ⊢
    split at passing
    next failing => exact absurd rfl passing
    next working =>
      rw [if_neg working]
      refine ⟨⟨?_, ?_, (filters_perm tables).trans perm⟩, foldl_apply_lastFilter ..⟩
      · rw [session?, foldl_apply_sessions]
        exact session?_restaged found none
      · refine sublayerKnown_iff.mpr (Or.inl (tables.mem_iff.mpr (List.mem_append.mpr ?_)))
        exact (sublayerKnown_iff.mp known).symm

/-- A filter with a new number waits if a transaction is open, and is in force if not. -/
theorem Supplied.write (supplied : Supplied memory session ns stored) {new : Stored}
    (fresh : Mark.filter new.id ∉ memory.live.map Write.mark) :
    ∃ staged, Supplied (memory.write session (.filter new)) { session with staged } ns
      (stored ++ [new]) := by
  obtain ⟨found, known, perm⟩ := supplied
  have added : (new :: (session.writes.filterMap Write.stored? ++ memory.filters)).Perm
      (stored ++ [new]) := (perm.cons new).trans (List.perm_append_singleton new stored).symm
  obtain ⟨id, staged⟩ := session
  cases staged with
  | some waiting =>
    let waiting' := waiting ++ [Write.filter new]
    refine ⟨some waiting', session?_restaged found (some waiting'), ?_, ?_⟩
    · exact sublayerKnown_iff.mpr ((sublayerKnown_iff.mp known).imp_right (List.mem_append_left _))
    · refine List.Perm.trans ?_ added
      change ((waiting ++ [Write.filter new]).filterMap Write.stored? ++ memory.filters).Perm _
      rw [List.filterMap_append, List.append_assoc]
      exact List.perm_middle
  | none =>
    exact ⟨none, found, known, (Stored.insert_perm (id_ne_of_fresh fresh)).trans added⟩

/-- A filter whose addition is not made to fail is added under the next number. -/
theorem Supplied.addFilter (supplied : Supplied memory session ns stored) (sound : memory.Sound)
    (filter : Filter)
    (spared : (Memory.call session.id (.addFilter ns filter) memory).1 ≠
      .error .injectedAddFilter) :
    (∃ staged, Supplied (Memory.call session.id (.addFilter ns filter) memory).2
        { session with staged } ns (stored ++ [⟨memory.lastFilter + 1, ns, filter⟩])) ∧
      (Memory.call session.id (.addFilter ns filter) memory).2.lastFilter =
        memory.lastFilter + 1 ∧
      (Memory.call session.id (.addFilter ns filter) memory).1 = .ok (memory.lastFilter + 1) := by
  have fresh := sound.fresh_number (Nat.lt_succ_self memory.lastFilter)
  rw [call_of_session? supplied.found, perform] at spared ⊢
  have accepted : ({ memory with calls := memory.calls + 1 } : Memory).sublayerKnown session ns =
    true := supplied.known
  rcases addFilter_of_known accepted filter with refused | added
  · exact absurd (congrArg Prod.fst refused) spared
  · rw [added]
    let counted : Memory := { memory with
      calls := memory.calls + 1
      addFilterCalls := memory.addFilterCalls + 1
      lastFilter := memory.lastFilter + 1 }
    have supplied' : Supplied counted session ns stored :=
      ⟨supplied.found, supplied.known, supplied.perm⟩
    exact ⟨supplied'.write fresh, write_lastFilter .., rfl⟩

/-- What a step brings into force or lets wait. -/
theorem Supplied.step (supplied : Supplied memory session ns stored) (sound : memory.Sound)
    (delivery : Delivery)
    (spared : (memory.step (.call session.id (delivery.call ns))).1 ≠ .error .injectedAddFilter)
    (passing : (memory.step (.call session.id (delivery.call ns))).1 ≠ .error .injectedCommit) :
    (∃ staged, Supplied (memory.step (.call session.id (delivery.call ns))).2
        { session with staged } ns
        (stored ++ ns.numbered memory.lastFilter delivery.filter?.toList)) ∧
      (memory.step (.call session.id (delivery.call ns))).2.lastFilter =
        memory.lastFilter + delivery.filter?.toList.length ∧
      ∀ filter, delivery = .add filter →
        (memory.step (.call session.id (delivery.call ns))).1 =
          .ok (.number (memory.lastFilter + 1)) := by
  have same : stored ++ ns.numbered memory.lastFilter [] = stored := List.append_nil stored
  cases delivery with
  | begin =>
    obtain ⟨staged, next, count⟩ := supplied.begin
    exact ⟨⟨staged, same.symm ▸ next⟩, count, nofun⟩
  | commit =>
    obtain ⟨next, count⟩ :=
      supplied.commit sound fun failed => passing (congrArg (Except.map _) failed)
    exact ⟨⟨none, same.symm ▸ next⟩, count, nofun⟩
  | add filter =>
    obtain ⟨next, count, answer⟩ :=
      supplied.addFilter sound filter fun failed => spared (congrArg (Except.map _) failed)
    exact ⟨next, count, fun _ _ => congrArg (Except.map _) answer⟩

/-- Where no call is made to fail, all filters that steps add are added, under numbers in a row. -/
theorem Supplied.deliver {steps : List Delivery} (supplied : Supplied memory session ns stored)
    (sound : memory.Sound)
    (spared : .error .injectedAddFilter ∉ (memory.deliver session.id ns steps).1)
    (passing : .error .injectedCommit ∉ (memory.deliver session.id ns steps).1) :
    (∃ staged, Supplied (memory.deliver session.id ns steps).2 { session with staged } ns
        (stored ++ ns.numbered memory.lastFilter (steps.filterMap Delivery.filter?))) ∧
      ∀ (k : Nat) (filter : Filter), steps[k]? = some (.add filter) →
        ∃ number, (memory.deliver session.id ns steps).1[k]? = some (.ok (.number number)) := by
  induction steps generalizing memory session stored with
  | nil => exact ⟨⟨session.staged, (List.append_nil stored).symm ▸ supplied⟩, nofun⟩
  | cons delivery rest ih =>
    rw [Memory.deliver, List.mem_cons, not_or] at spared passing
    obtain ⟨⟨staged, next⟩, count, answer⟩ :=
      supplied.step sound delivery (Ne.symm spared.1) (Ne.symm passing.1)
    obtain ⟨⟨last, supplied_last⟩, answers⟩ :=
      ih next (sound.call session.id (delivery.call ns)) spared.2 passing.2
    refine ⟨⟨last, ?_⟩, fun k filter here => ?_⟩
    · rw [count, List.append_assoc, ← Namespace.numbered_append] at supplied_last
      have all : (delivery :: rest).filterMap Delivery.filter? =
          delivery.filter?.toList ++ rest.filterMap Delivery.filter? := by
        cases delivery <;> rfl
      rw [all]
      exact supplied_last
    · cases k with
      | zero =>
        cases here
        exact ⟨_, congrArg some (answer filter rfl)⟩
      | succ k => exact answers k filter here

/-- The filters in force, once the transaction of a session is committed. -/
def committed (memory : Memory) (session : Session) : List Stored :=
  (session.writes.foldl (Memory.apply session.id) (memory.setStaged session.id none)).filters

variable {filters : List Filter} {steps : List Delivery}

/-- The filters of a delivery are in force after all others in the order in which they were added,
in whatever transactions. -/
theorem Delivers.filters_eq (delivers : memory.Delivers session.id ns filters steps)
    (sound : memory.Sound) (found : memory.session? session.id = some session)
    (known : memory.sublayerKnown session ns = true) :
    (memory.deliver session.id ns steps).2.filters =
      memory.committed session ++ ns.numbered memory.lastFilter filters := by
  have tables := registered_foldl_apply session.id (sound.nodup_unstaged found)
  have supplied : Supplied memory session ns (memory.committed session) :=
    ⟨found, known, (filters_perm tables).symm⟩
  have committed_sound := sound.commit found
  obtain ⟨⟨staged, last⟩, _⟩ := supplied.deliver sound delivers.spared delivers.passing
  cases delivers.ended.symm.trans last.found
  rw [delivers.brings] at last
  refine last.perm.eq_of_pairwise (fun _ _ _ _ less more => absurd less (Nat.lt_asymm more))
    (sound.deliver session.id ns steps).filters_sorted (List.pairwise_append.mpr
      ⟨committed_sound.filters_sorted, Namespace.pairwise_numbered .., ?_⟩)
  intro stored before new after
  have known := (committed_sound.known _ (List.mem_append_left _ (filter_registered before))).1
  rw [foldl_apply_lastFilter] at known
  exact Nat.lt_of_le_of_lt known (Namespace.lt_of_mem_numbered after)

/-- All additions of a delivery are granted. -/
theorem Delivers.granted (delivers : memory.Delivers session.id ns filters steps)
    (sound : memory.Sound) (found : memory.session? session.id = some session)
    (known : memory.sublayerKnown session ns = true) {k : Nat} {filter : Filter}
    (here : steps[k]? = some (.add filter)) :
    ∃ number, (memory.deliver session.id ns steps).1[k]? = some (.ok (.number number)) := by
  have supplied : Supplied memory session ns _ := ⟨found, known, List.Perm.refl _⟩
  exact (supplied.deliver sound delivers.spared delivers.passing).2 k filter here

end Deliveries

end Memory

end TrafficPolicy
