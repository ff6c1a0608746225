import TrafficPolicy.Proofs.Engine.TenantTables
import TrafficPolicy.Proofs.Install.StageTenancy

/-!
# The filter that prevails

`Memory.classify` looks for the strongest filter among numbered ones.  In the order of their
numbers the numbers do not matter: `Filter.prevailing?` reads the verdict off the list of filters,
from the last one to the first, and takes an earlier one only for a greater weight.

An engine that holds the filters of one policy decides by what prevails in that policy
(`Policy.classify_install`).
-/

namespace TrafficPolicy

namespace Filter

/-- The filter of a list that decides a packet: among those that apply the last one of the
greatest weight. -/
def prevailing? (packet : Packet) : List Filter → Option Filter
  | [] => none
  | filter :: rest =>
    match prevailing? packet rest with
    | none => if filter.applies packet then some filter else none
    | some best =>
      if filter.applies packet && best.weight < filter.weight then some filter else some best

variable {packet : Packet}

theorem mem_of_prevailing? {filters : List Filter} {best : Filter}
    (prevails : prevailing? packet filters = some best) :
    best ∈ filters ∧ best.applies packet = true := by
  induction filters generalizing best with
  | nil => cases prevails
  | cons filter rest ih =>
    rw [prevailing?] at prevails
    cases later : prevailing? packet rest with
    | none =>
      simp only [later] at prevails
      split at prevails
      next applies =>
        cases prevails
        exact ⟨List.mem_cons_self, applies⟩
      next => cases prevails
    | some other =>
      simp only [later] at prevails
      split at prevails
      next stronger =>
        cases prevails
        rw [Bool.and_eq_true] at stronger
        exact ⟨List.mem_cons_self, stronger.1⟩
      next =>
        cases prevails
        exact ⟨List.mem_cons_of_mem _ (ih later).1, (ih later).2⟩

theorem prevailing?_eq_none_iff {filters : List Filter} :
    prevailing? packet filters = none ↔ ∀ filter ∈ filters, filter.applies packet = false := by
  induction filters with
  | nil => simp [prevailing?]
  | cons filter rest ih =>
    rw [prevailing?, List.forall_mem_cons, ← ih]
    cases prevailing? packet rest with
    | none => simp
    | some best =>
      simp only [reduceCtorEq, and_false, iff_false]
      split <;> simp

/-- Where all filters have one action it is the verdict, if any of them applies. -/
theorem prevailing?_uniform {filters : List Filter} {action : Action}
    (uniform : ∀ filter ∈ filters, filter.action = action) :
    (prevailing? packet filters).map (·.action) =
      if filters.any (·.applies packet) then some action else none := by
  cases prevails : prevailing? packet filters with
  | none =>
    have silent : filters.any (·.applies packet) = false := by
      rw [List.any_eq_false]
      intro filter member
      rw [prevailing?_eq_none_iff.mp prevails filter member]
      exact Bool.false_ne_true
    rw [silent]
    rfl
  | some best =>
    obtain ⟨member, applies⟩ := mem_of_prevailing? prevails
    rw [if_pos (List.any_eq_true.mpr ⟨best, member, applies⟩)]
    exact congrArg some (uniform best member)

/-- An earlier filter prevails over later ones if it weighs more. -/
theorem prevailing?_append_eq (earlier later : List Filter) :
    prevailing? packet (earlier ++ later) =
      match prevailing? packet earlier, prevailing? packet later with
      | first, none => first
      | none, some best => some best
      | some first, some best => if best.weight < first.weight then some first else some best := by
  induction earlier with
  | nil =>
    rw [List.nil_append]
    cases prevailing? packet later <;> rfl
  | cons filter rest ih =>
    rw [List.cons_append, prevailing?, ih, prevailing?]
    cases prevailing? packet later with
    | none => rfl
    | some best =>
      cases prevailing? packet rest with
      | none => cases filter.applies packet <;> simp
      | some first =>
        dsimp only
        cases filter.applies packet with
        | false =>
          by_cases heavier : best.weight < first.weight <;> simp [heavier]
        | true =>
          simp only [Bool.true_and, decide_eq_true_eq]
          grind

/-- Later filters of greater weights come before earlier ones. -/
theorem prevailing?_append {earlier later : List Filter}
    (above : ∀ filter ∈ earlier, ∀ other ∈ later, filter.weight < other.weight) :
    prevailing? packet (earlier ++ later) =
      (prevailing? packet later).or (prevailing? packet earlier) := by
  rw [prevailing?_append_eq]
  cases second : prevailing? packet later with
  | none => exact (Option.none_or ..).symm
  | some best =>
    cases first : prevailing? packet earlier with
    | none => rfl
    | some other =>
      have weaker : other.weight < best.weight :=
        above other (mem_of_prevailing? first).1 best (mem_of_prevailing? second).1
      exact if_neg (UInt8.lt_asymm weaker)

end Filter

namespace Stored

theorem mem_of_strongest? {stored : List Stored} {best : Stored}
    (strongest : strongest? stored = some best) : best ∈ stored := by
  induction stored generalizing best with
  | nil => cases strongest
  | cons first rest ih =>
    rw [strongest?] at strongest
    cases later : strongest? rest with
    | none =>
      simp only [later] at strongest
      exact Option.some.inj strongest ▸ List.mem_cons_self
    | some other =>
      simp only [later] at strongest
      split at strongest
      · exact Option.some.inj strongest ▸ List.mem_cons_self
      · exact Option.some.inj strongest ▸ List.mem_cons_of_mem _ (ih later)

/-- In the order of their numbers, the strongest filter is the one that prevails. -/
theorem strongest?_eq_prevailing? {stored : List Stored}
    (sorted : stored.Pairwise (·.id < ·.id)) (packet : Packet) :
    (strongest? (stored.filter (·.filter.applies packet))).map (·.filter) =
      Filter.prevailing? packet (stored.map (·.filter)) := by
  induction stored with
  | nil => rfl
  | cons first rest ih =>
    obtain ⟨below, sorted⟩ := List.pairwise_cons.mp sorted
    have rest' := ih sorted
    rw [List.map_cons, Filter.prevailing?, ← rest', List.filter_cons]
    cases applies : first.filter.applies packet with
    | false =>
      rw [if_neg Bool.false_ne_true]
      cases strongest? (rest.filter (·.filter.applies packet)) <;> rfl
    | true =>
      rw [if_pos rfl, strongest?]
      cases later : strongest? (rest.filter (·.filter.applies packet)) with
      | none => rfl
      | some best =>
        have after := below best (List.mem_filter.mp (mem_of_strongest? later)).1
        have rank : first.outranks best = decide (best.filter.weight < first.filter.weight) := by
          have notBefore : decide (best.id < first.id) = false :=
            decide_eq_false (Nat.lt_asymm after)
          rw [outranks, notBefore, Bool.and_false, Bool.or_false]
        simp only [rank, Option.map_some, Bool.true_and]
        split <;> rfl

end Stored

/-- The verdict can be read off the filters in the order of their numbers. -/
theorem Memory.Sound.classify_eq {memory : Memory} (sound : memory.Sound) (packet : Packet) :
    memory.classify packet =
      (Filter.prevailing? packet (memory.filters.map (·.filter))).map (·.action) := by
  rw [← Stored.strongest?_eq_prevailing? sound.filters_sorted, Option.map_map, Memory.classify,
    Memory.decisive?]
  rfl

/-- An engine that had no filters decides by what prevails in the policy it was given. -/
theorem Policy.classify_install {memory after : Memory} {options : InstallOptions}
    {policy : Policy} {installed : Installed SessionId} (sound : memory.Sound)
    (empty : memory.filters = [])
    (done : policy.install Memory.engine options memory = (.ok installed, after))
    (packet : Packet) :
    after.classify packet = (Filter.prevailing? packet policy.filters).map (·.action) := by
  rcases policy.install_hosts Memory.front_engine options sound.hosts_nil with
    ⟨error, next, eq, _⟩ | ⟨held, next, eq, complete, hosts⟩
  · rw [done] at eq
    cases eq
  · rw [done] at eq
    cases eq
    obtain ⟨session, opened⟩ := Option.isSome_iff_exists.mp complete.1
    rw [Installed.tenant_of_session opened] at hosts
    have filters : after.filters = installed.ns.stored installed.ids policy.filters :=
      hosts.filters_eq empty
    have contents := (@Namespace.map_stored installed.ns _ _ complete.2).1
    have sound' : after.Sound := hosts.sound
    rw [sound'.classify_eq, filters, contents]

end TrafficPolicy
