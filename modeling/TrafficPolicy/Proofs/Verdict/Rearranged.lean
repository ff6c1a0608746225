import Mathlib.Logic.Equiv.Defs
import TrafficPolicy.Proofs.Engine.Deliveries

/-!
# Filters in another order

Of two filters that apply to a packet the order matters only if they weigh the same and have
different actions (`Filter.Opposes`).  If two lists have the same filters and keep the order of
those, the filters that prevail may differ, but not in weight and action
(`Filter.Rearranged.prevailing?`).  So it is all the same to the verdicts in which of these orders
the filters are added to an engine.
-/

namespace TrafficPolicy

namespace Filter

variable {packet : Packet} {first second : List Filter}

/-- Two filters on one layer and of one weight that decide differently. -/
def Opposes (filter other : Filter) : Prop :=
  filter.layer = other.layer ∧ filter.weight = other.weight ∧ filter.action ≠ other.action

instance (filter other : Filter) : Decidable (filter.Opposes other) :=
  inferInstanceAs (Decidable (_ ∧ _))

/-- The filters of one list in another order: each place of the first list goes with a place of the
second one where the same filter stands, and filters that oppose each other stay in order. -/
def Rearranged (first second : List Filter) : Prop :=
  ∃ place : Fin first.length ≃ Fin second.length,
    (∀ i, second.get (place i) = first.get i) ∧
    ∀ i j, i < j → (first.get i).Opposes (first.get j) → place i < place j

theorem layer_eq_of_applies {filter : Filter} (applies : filter.applies packet = true) :
    filter.layer = packet.layer := by
  rw [Filter.applies, Bool.and_eq_true] at applies
  exact of_decide_eq_true applies.1

/-- The filter at a place applies, and all others that apply weigh less, or weigh the same and stand
before it. -/
structure PrevailsAt (packet : Packet) (filters : List Filter) (i : Fin filters.length) : Prop where
  applies : (filters.get i).applies packet = true
  above : ∀ j, (filters.get j).applies packet = true →
    (filters.get j).weight < (filters.get i).weight ∨
      (filters.get j).weight = (filters.get i).weight ∧ j ≤ i

theorem PrevailsAt.head {filter : Filter} {rest : List Filter}
    (applies : filter.applies packet = true)
    (heaviest : ∀ j, (rest.get j).applies packet = true → (rest.get j).weight < filter.weight) :
    PrevailsAt packet (filter :: rest) ⟨0, Nat.succ_pos _⟩ :=
  ⟨applies, Fin.cases (fun _ => Or.inr ⟨rfl, Nat.le_refl 0⟩)
    fun j applies => Or.inl (heaviest j applies)⟩

theorem PrevailsAt.tail {filter : Filter} {rest : List Filter} {i : Fin rest.length}
    (prevails : PrevailsAt packet rest i)
    (weaker : filter.applies packet = true → filter.weight ≤ (rest.get i).weight) :
    PrevailsAt packet (filter :: rest) i.succ := by
  refine ⟨prevails.applies, Fin.cases (fun applies => ?_) fun j applies => ?_⟩
  · rcases UInt8.lt_or_eq_of_le (weaker applies) with lighter | same
    · exact Or.inl lighter
    · exact Or.inr ⟨same, Fin.zero_le _⟩
  · exact (prevails.above j applies).imp_right (And.imp_right Fin.succ_le_succ_iff.mpr)

/-- The filter that prevails does so at one of its places. -/
theorem exists_prevailsAt {filters : List Filter} {best : Filter}
    (prevails : prevailing? packet filters = some best) :
    ∃ i, filters.get i = best ∧ PrevailsAt packet filters i := by
  induction filters generalizing best with
  | nil => cases prevails
  | cons filter rest ih =>
    rw [prevailing?] at prevails
    cases later : prevailing? packet rest with
    | none =>
      simp only [later] at prevails
      split at prevails
      next applies =>
        cases prevails
        refine ⟨⟨0, Nat.succ_pos _⟩, rfl, .head applies fun j applies => ?_⟩
        exact absurd applies (Bool.eq_false_iff.mp
          (prevailing?_eq_none_iff.mp later _ (List.get_mem rest j)))
      next => cases prevails
    | some other =>
      obtain ⟨i, rfl, there⟩ := ih later
      simp only [later] at prevails
      split at prevails
      next stronger =>
        cases prevails
        rw [Bool.and_eq_true, decide_eq_true_eq] at stronger
        refine ⟨⟨0, Nat.succ_pos _⟩, rfl, .head stronger.1 fun j applies => ?_⟩
        rcases there.above j applies with lighter | ⟨same, _⟩
        · exact UInt8.lt_trans lighter stronger.2
        · exact same ▸ stronger.2
      next weaker =>
        cases prevails
        refine ⟨i.succ, rfl, there.tail fun applies => UInt8.not_lt.mp fun heavier => ?_⟩
        exact weaker (Bool.and_eq_true_iff.mpr ⟨applies, decide_eq_true heavier⟩)

/-- Of two filters that prevail in the one and in the other order, each stands in both lists, so
neither outweighs the other, and with different actions they would be in the same order in both. -/
theorem PrevailsAt.alike {place : Fin first.length ≃ Fin second.length}
    (same : ∀ i, second.get (place i) = first.get i)
    (ordered : ∀ i j, i < j → (first.get i).Opposes (first.get j) → place i < place j)
    {i : Fin first.length} {k : Fin second.length} (here : PrevailsAt packet first i)
    (there : PrevailsAt packet second k) :
    (first.get i).weight = (second.get k).weight ∧
      (first.get i).action = (second.get k).action := by
  have back : first.get (place.symm k) = second.get k := by
    rw [← same, place.apply_symm_apply]
  have below := here.above (place.symm k) (back ▸ there.applies)
  have below' := there.above (place i) (same i ▸ here.applies)
  rw [back] at below
  rw [same] at below'
  obtain ⟨even, before, before'⟩ : (second.get k).weight = (first.get i).weight ∧
      place.symm k ≤ i ∧ place i ≤ k := by
    rcases below with lighter | ⟨even, before⟩
    · rcases below' with heavier | ⟨even, _⟩
      · exact absurd heavier (UInt8.lt_asymm lighter)
      · exact absurd even.symm (UInt8.ne_of_lt lighter)
    · rcases below' with heavier | ⟨_, before'⟩
      · exact absurd even.symm (UInt8.ne_of_lt heavier)
      · exact ⟨even, before, before'⟩
  refine ⟨even.symm, Decidable.of_not_not fun differ => ?_⟩
  have opposed : (first.get (place.symm k)).Opposes (first.get i) := by
    rw [back]
    exact ⟨(layer_eq_of_applies there.applies).trans (layer_eq_of_applies here.applies).symm, even,
      Ne.symm differ⟩
  have apart : place.symm k ≠ i := by
    rintro rfl
    exact differ (congrArg Filter.action back)
  have moved := ordered _ _ (Nat.lt_of_le_of_ne before (Fin.val_ne_of_ne apart)) opposed
  rw [place.apply_symm_apply] at moved
  exact Nat.not_le.mpr moved before'

/-- What prevails in another order has the same weight and the same action. -/
theorem Rearranged.prevailing? (rearranged : Rearranged first second) (packet : Packet) :
    (prevailing? packet first).map (fun best => (best.weight, best.action)) =
      (Filter.prevailing? packet second).map (fun best => (best.weight, best.action)) := by
  obtain ⟨place, same, ordered⟩ := rearranged
  cases prevails : Filter.prevailing? packet first with
  | none =>
    have silent := prevailing?_eq_none_iff.mp prevails
    have silent' : Filter.prevailing? packet second = none := by
      refine prevailing?_eq_none_iff.mpr fun filter member => ?_
      obtain ⟨k, rfl⟩ := List.get_of_mem member
      rw [← place.apply_symm_apply k, same]
      exact silent _ (List.get_mem first _)
    rw [silent']
  | some best =>
    obtain ⟨i, rfl, here⟩ := exists_prevailsAt prevails
    cases prevails' : Filter.prevailing? packet second with
    | none =>
      have silent := prevailing?_eq_none_iff.mp prevails' _ (List.get_mem second (place i))
      rw [same, here.applies] at silent
      cases silent
    | some other =>
      obtain ⟨k, rfl, there⟩ := exists_prevailsAt prevails'
      obtain ⟨weight, action⟩ := here.alike same ordered there
      rw [Option.map_some, Option.map_some, weight, action]

/-- Where what prevails has the same weight and action, it decides alike after the same filters. -/
theorem action_prevailing?_append (earlier : List Filter)
    (alike : (Filter.prevailing? packet first).map (fun best => (best.weight, best.action)) =
      (Filter.prevailing? packet second).map (fun best => (best.weight, best.action))) :
    (Filter.prevailing? packet (earlier ++ first)).map (·.action) =
      (Filter.prevailing? packet (earlier ++ second)).map (·.action) := by
  rw [prevailing?_append_eq, prevailing?_append_eq]
  cases one : Filter.prevailing? packet first with
  | none =>
    rw [one, Option.map_none, eq_comm, Option.map_eq_none_iff] at alike
    rw [alike]
  | some best =>
    rw [one, Option.map_some, eq_comm, Option.map_eq_some_iff] at alike
    obtain ⟨other, two, same⟩ := alike
    obtain ⟨weight, action⟩ := Prod.mk.inj same
    rw [two]
    cases Filter.prevailing? packet earlier with
    | none => exact congrArg some action.symm
    | some before =>
      dsimp only
      rw [weight]
      split
      · rfl
      · exact congrArg some action.symm

end Filter

/-- After any moves, a session that may add filters under a namespace adds the filters of a list,
each at once or in a transaction.  All additions are granted.  If it adds the filters of another
list instead, in which they are in another order but for those that oppose each other, and in
whatever other transactions, then all packets get the same verdicts. -/
theorem History.classify_rearranged (moves : List Move) {id : SessionId} {session : Session}
    {ns : Namespace} {first second : List Filter} {steps others : List Delivery}
    (found : (run moves).memory.session? id = some session)
    (known : (run moves).memory.sublayerKnown session ns = true)
    (rearranged : Filter.Rearranged first second)
    (delivers : (run moves).memory.Delivers id ns first steps)
    (delivers' : (run moves).memory.Delivers id ns second others) :
    (∀ (k : Nat) (filter : Filter), steps[k]? = some (.add filter) →
      ∃ number, ((run moves).memory.deliver id ns steps).1[k]? = some (.ok (.number number))) ∧
    (∀ (k : Nat) (filter : Filter), others[k]? = some (.add filter) →
      ∃ number, ((run moves).memory.deliver id ns others).1[k]? = some (.ok (.number number))) ∧
    ∀ packet, ((run moves).memory.deliver id ns steps).2.classify packet =
      ((run moves).memory.deliver id ns others).2.classify packet := by
  have sound := (sound_run moves).memory
  obtain ⟨_, rfl⟩ := Memory.session?_eq_some found
  refine ⟨fun _ _ here => delivers.granted sound found known here,
    fun _ _ here => delivers'.granted sound found known here, fun packet => ?_⟩
  rw [(sound.deliver session.id ns steps).classify_eq, delivers.filters_eq sound found known,
    (sound.deliver session.id ns others).classify_eq, delivers'.filters_eq sound found known,
    List.map_append, List.map_append, Namespace.map_numbered, Namespace.map_numbered]
  exact Filter.action_prevailing?_append _ (rearranged.prevailing? packet)

/-- A filter of greater weight may be added before two that oppose each other or after them, and all
three at once or two of them in a transaction. -/
theorem History.classify_rearranged_beside_opposing :
    let block : Filter := ⟨.connectV4, .block, 5, [], "block"⟩
    let allow : Filter := ⟨.connectV4, .allow, 5, [], "allow"⟩
    let port : Filter := ⟨.connectV4, .block, 7, [.eq .remotePort (.u16 53)], "port"⟩
    let ns : Namespace := ⟨Key.draw 0, Key.draw 1⟩
    let memory := (run [.openSession, .call 1 (.addProvider "provider" ""),
      .call 1 (.addSublayer (Key.draw 0) "sublayer" "")]).memory
    let steps : List Delivery := [.add block, .add allow, .add port]
    let others : List Delivery := [.begin, .add port, .add block, .commit, .add allow]
    block.Opposes allow ∧ (memory.deliver 1 ns steps).2.filters.length = 3 ∧
      (∀ packet, (memory.deliver 1 ns steps).2.classify packet =
        (memory.deliver 1 ns others).2.classify packet) ∧
      (memory.deliver 1 ns steps).2.classify (.outbound (.v4 1) 80 6) = some .allow := by
  intro block allow port ns memory steps others
  have rearranged : Filter.Rearranged [block, allow, port] [port, block, allow] := by
    let place : Fin 3 ≃ Fin 3 :=
      ⟨(· + 1), (· - 1), show ∀ i : Fin 3, i + 1 - 1 = i by decide,
        show ∀ i : Fin 3, i - 1 + 1 = i by decide⟩
    exact ⟨place, by decide, by decide⟩
  have found : memory.session? 1 = some ⟨1, none⟩ := by decide +kernel
  have known : memory.sublayerKnown ⟨1, none⟩ ns = true := by decide +kernel
  have delivers : memory.Delivers 1 ns [block, allow, port] steps :=
    ⟨by decide +kernel, by decide +kernel, by decide +kernel, by decide +kernel⟩
  have delivers' : memory.Delivers 1 ns [port, block, allow] others :=
    ⟨by decide +kernel, by decide +kernel, by decide +kernel, by decide +kernel⟩
  refine ⟨by decide, by decide +kernel, ?_, by decide +kernel⟩
  exact (classify_rearranged _ found known rearranged delivers delivers').2.2

end TrafficPolicy
