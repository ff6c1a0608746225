import TrafficPolicy.Packet

/-!
# Lists of conditions

What a list of conditions asks of a packet is said field by field.  `Condition.metOn` is whether one
of the conditions on a field holds, and a list is met if it is on each field that it is about
(`Condition.allMet_eq_true_iff`).  So the order of the conditions and their repetition play no part
(`Condition.allMet_congr`).  One more condition is an alternative on a field that the list is about
(`Condition.allMet_concat_of_old`), and a demand on any other (`Condition.allMet_concat_of_new`).
-/

namespace TrafficPolicy

namespace Condition

/-- Whether one of the conditions on a field holds. -/
def metOn (conditions : List Condition) (packet : Packet) (field : Field) : Bool :=
  conditions.any fun condition => condition.field = field && condition.holds packet

/-- Each field that the conditions are about, but for one that may go without, has a condition that
holds. -/
def MetElsewhere (conditions : List Condition) (packet : Packet) (field : Field) : Prop :=
  ∀ other ∈ conditions, other.field ≠ field → metOn conditions packet other.field = true

instance (conditions : List Condition) (packet : Packet) (field : Field) :
    Decidable (MetElsewhere conditions packet field) :=
  inferInstanceAs (Decidable (∀ other ∈ conditions, _ → _))

variable {conditions : List Condition} {condition : Condition} {packet : Packet} {field : Field}

theorem metOn_eq_true_iff :
    metOn conditions packet field = true ↔
      ∃ condition ∈ conditions, condition.field = field ∧ condition.holds packet = true := by
  simp [metOn]

/-- A list of conditions is met if it is on each field that it is about. -/
theorem allMet_eq_true_iff :
    allMet conditions packet = true ↔
      ∀ condition ∈ conditions, metOn conditions packet condition.field = true :=
  List.all_eq_true

/-- Nothing is met on a field that no condition is about. -/
theorem metOn_of_new (new : ∀ other ∈ conditions, other.field ≠ field) :
    metOn conditions packet field = false := by
  rw [Bool.eq_false_iff, ne_eq, metOn_eq_true_iff]
  rintro ⟨other, member, is, _⟩
  exact new other member is

theorem metOn_append (first second : List Condition) :
    metOn (first ++ second) packet field =
      (metOn first packet field || metOn second packet field) :=
  List.any_append

theorem metOn_concat_self :
    metOn (conditions ++ [condition]) packet condition.field =
      (metOn conditions packet condition.field || condition.holds packet) := by
  simp [metOn]

theorem metOn_concat_of_ne (ne : condition.field ≠ field) :
    metOn (conditions ++ [condition]) packet field = metOn conditions packet field := by
  simp [metOn, ne]

/-! ## Order and repetition -/

theorem metOn_congr {others : List Condition}
    (same : ∀ condition, condition ∈ conditions ↔ condition ∈ others) :
    metOn conditions packet field = metOn others packet field := by
  rw [Bool.eq_iff_iff, metOn_eq_true_iff, metOn_eq_true_iff]
  exact exists_congr fun condition => and_congr_left fun _ => same condition

/-- Two lists of the same conditions are met by the same packets. -/
theorem allMet_congr {others : List Condition}
    (same : ∀ condition, condition ∈ conditions ↔ condition ∈ others) :
    allMet conditions packet = allMet others packet := by
  rw [Bool.eq_iff_iff, allMet_eq_true_iff, allMet_eq_true_iff]
  refine forall_congr' fun condition => ?_
  rw [metOn_congr same, same]

/-! ## One more condition -/

/-- A list is met if it is on some field that it is about and elsewhere. -/
theorem allMet_iff_of_old (old : ∃ other ∈ conditions, other.field = field) :
    allMet conditions packet = true ↔
      metOn conditions packet field = true ∧ MetElsewhere conditions packet field := by
  rw [allMet_eq_true_iff]
  constructor
  · intro all
    obtain ⟨other, member, rfl⟩ := old
    exact ⟨all other member, fun another inside _ => all another inside⟩
  · rintro ⟨here, elsewhere⟩ other member
    by_cases is : other.field = field
    · rwa [is]
    · exact elsewhere other member is

/-- On a field that no condition is about there is nothing to meet. -/
theorem allMet_iff_of_new (new : ∀ other ∈ conditions, other.field ≠ field) :
    allMet conditions packet = true ↔ MetElsewhere conditions packet field := by
  rw [allMet_eq_true_iff]
  exact forall₂_congr fun other member => (imp_iff_right (new other member)).symm

/-- One more condition asks for one that holds on its field, and elsewhere for what was asked
before. -/
theorem allMet_concat :
    allMet (conditions ++ [condition]) packet = true ↔
      (metOn conditions packet condition.field = true ∨ condition.holds packet = true) ∧
        MetElsewhere conditions packet condition.field := by
  have added : condition ∈ conditions ++ [condition] := List.mem_concat_self
  rw [allMet_iff_of_old ⟨condition, added, rfl⟩, metOn_concat_self, Bool.or_eq_true]
  refine and_congr_right fun _ => ?_
  constructor
  · intro elsewhere other member ne
    rw [← metOn_concat_of_ne ne.symm]
    exact elsewhere other (List.mem_append_left _ member) ne
  · intro elsewhere other member ne
    rw [metOn_concat_of_ne ne.symm]
    rcases List.mem_append.mp member with before | last
    · exact elsewhere other before ne
    · exact absurd (congrArg field (List.mem_singleton.mp last)) ne

theorem allMet_concat_of_old (old : ∃ other ∈ conditions, other.field = condition.field) :
    allMet (conditions ++ [condition]) packet = true ↔
      allMet conditions packet = true ∨
        (condition.holds packet = true ∧ MetElsewhere conditions packet condition.field) := by
  rw [allMet_concat, allMet_iff_of_old old, or_and_right]

theorem allMet_concat_of_new (new : ∀ other ∈ conditions, other.field ≠ condition.field) :
    allMet (conditions ++ [condition]) packet = true ↔
      allMet conditions packet = true ∧ condition.holds packet = true := by
  rw [allMet_concat, allMet_iff_of_new new, metOn_of_new new]
  simp [and_comm]

end Condition

namespace Filter

/-- The filter with one more condition. -/
def withCondition (filter : Filter) (condition : Condition) : Filter :=
  { filter with conditions := filter.conditions ++ [condition] }

/-- A filter accepts what the set of its conditions makes it accept: neither their order nor their
repetition plays a part.  One more condition on a field that it has conditions on widens it, by the
packets that meet the condition and, on the other fields, what was asked before.  One more condition
on a new field narrows it to the packets that meet the condition. -/
theorem conditions_act_as_set (filter : Filter) (packet : Packet) :
    (∀ other : Filter,
      (∀ condition, condition ∈ other.conditions ↔ condition ∈ filter.conditions) →
        other.accepts packet = filter.accepts packet) ∧
    ∀ condition : Condition,
      ((∃ other ∈ filter.conditions, other.field = condition.field) →
        (filter.accepts packet = true →
          (filter.withCondition condition).accepts packet = true) ∧
        ((filter.withCondition condition).accepts packet = true ↔
          filter.accepts packet = true ∨
            (condition.holds packet = true ∧
              Condition.MetElsewhere filter.conditions packet condition.field))) ∧
      ((∀ other ∈ filter.conditions, other.field ≠ condition.field) →
        ((filter.withCondition condition).accepts packet = true ↔
          filter.accepts packet = true ∧ condition.holds packet = true)) := by
  refine ⟨fun other same => Condition.allMet_congr same, fun condition => ⟨fun old => ?_, ?_⟩⟩
  · have widened : (filter.withCondition condition).accepts packet = true ↔ _ :=
      Condition.allMet_concat_of_old old
    exact ⟨fun accepted => widened.mpr (Or.inl accepted), widened⟩
  · exact Condition.allMet_concat_of_new

/-- A filter for questions to name servers over one transport.  It does the same with its conditions
turned round and one of them written twice; with the other transport added it accepts a packet that
it refused, and with a server added it refuses a packet that it accepted. -/
theorem conditions_act_as_set_names :
    ∃ (filter other : Filter) (first second : Packet),
      filter.conditions = [.eq .remotePort (.u16 53), .eq .protocol (.u8 17)] ∧
      other.conditions =
        [.eq .protocol (.u8 17), .eq .remotePort (.u16 53), .eq .protocol (.u8 17)] ∧
      first = .outbound (.ofOctets 9 9 9 9) 53 6 ∧ second = .outbound (.ofOctets 9 9 9 9) 53 17 ∧
      (∀ condition, condition ∈ other.conditions ↔ condition ∈ filter.conditions) ∧
      other.accepts first = filter.accepts first ∧
      (∃ old ∈ filter.conditions, old.field = .protocol) ∧ filter.accepts first = false ∧
      (filter.withCondition (.eq .protocol (.u8 6))).accepts first = true ∧
      (∀ old ∈ filter.conditions, old.field ≠ .remoteAddress) ∧ filter.accepts second = true ∧
      (filter.withCondition (.eq .remoteAddress (.address (.ofOctets 1 1 1 1)))).accepts second =
        false := by
  let filter : Filter :=
    ⟨.connectV4, .allow, 4, [.eq .remotePort (.u16 53), .eq .protocol (.u8 17)], "DNS"⟩
  let other : Filter :=
    { filter with
      conditions := [.eq .protocol (.u8 17), .eq .remotePort (.u16 53), .eq .protocol (.u8 17)] }
  let first : Packet := .outbound (.ofOctets 9 9 9 9) 53 6
  let second : Packet := .outbound (.ofOctets 9 9 9 9) 53 17
  have same : ∀ condition, condition ∈ other.conditions ↔ condition ∈ filter.conditions := by
    intro condition
    simpa [other, filter] using Or.inr
  have old : ∃ old ∈ filter.conditions, old.field = .protocol := by decide
  have new : ∀ old ∈ filter.conditions, old.field ≠ .remoteAddress := by decide
  obtain ⟨alike, added⟩ := conditions_act_as_set filter first
  have wider := ((added (.eq .protocol (.u8 6))).1 old).2.mpr (Or.inr ⟨by decide, by decide⟩)
  have narrower := ((conditions_act_as_set filter second).2
    (.eq .remoteAddress (.address (.ofOctets 1 1 1 1)))).2 new
  refine ⟨filter, other, first, second, rfl, rfl, rfl, rfl, same, alike other same, old, by decide,
    wider, new, by decide, ?_⟩
  rw [Bool.eq_false_iff, ne_eq, narrower]
  decide

end Filter

end TrafficPolicy
