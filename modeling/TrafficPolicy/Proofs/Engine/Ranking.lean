import TrafficPolicy.Proofs.Engine.Integrity
import TrafficPolicy.Proofs.Verdict.Prevailing

/-!
# The rank of filters

A filter gets its number when it is added, and may come into force much later, with the commit of
its transaction and after filters of other sessions that were added after it.  Numbers are given out
in the order of the calls, whatever becomes of the filters; `History.AddedAt` says at which move of
a run a filter was added.

`History.Ordered` is what follows from that.  No filter ever takes the place of another one, and of
filters of equal weight that one decides which was added last, not the one committed last.
-/

namespace TrafficPolicy

namespace Stored

theorem strongest?_eq_none {list : List Stored} (none : strongest? list = none) : list = [] := by
  cases list with
  | nil => rfl
  | cons first rest =>
    rw [strongest?] at none
    split at none <;> cases none

/-- All other filters weigh less than the strongest one, or as much and have lower numbers. -/
theorem below_strongest? {list : List Stored} {best : Stored}
    (apart : list.Pairwise (·.id ≠ ·.id)) (strongest : strongest? list = some best) {other : Stored}
    (member : other ∈ list) :
    other = best ∨ other.filter.weight < best.filter.weight ∨
      other.filter.weight = best.filter.weight ∧ other.id < best.id := by
  induction list generalizing best with
  | nil => cases member
  | cons first rest ih =>
    obtain ⟨differs, apart⟩ := List.pairwise_cons.mp apart
    rw [strongest?] at strongest
    cases later : strongest? rest with
    | none =>
      simp only [later] at strongest
      cases strongest
      rw [strongest?_eq_none later, List.mem_singleton] at member
      exact Or.inl member
    | some second =>
      have inside := mem_of_strongest? later
      simp only [later, outranks] at strongest
      have apart' := differs second inside
      rcases List.mem_cons.mp member with rfl | member
      · grind
      · have below := ih apart later member
        grind

end Stored

theorem Write.eq_filter_of_stored? {write : Write} {stored : Stored}
    (is : write.stored? = some stored) : write = .filter stored := by
  cases write <;> cases is
  rfl

namespace Memory

/-- The filters in force and those that wait in a transaction. -/
def numbered (memory : Memory) : List Stored :=
  memory.filters ++ memory.sessions.flatMap (·.writes.filterMap Write.stored?)

variable {memory next : Memory}

theorem filterMap_registered (memory : Memory) :
    memory.registered.filterMap Write.stored? = memory.filters := by
  have providers : memory.providers.filterMap
      (Write.stored? ∘ fun entry => Write.provider entry.1) = [] := by simp [Write.stored?]
  have sublayers : memory.sublayers.filterMap
      (Write.stored? ∘ fun entry => Write.sublayer entry.1 entry.2) = [] := by simp [Write.stored?]
  have filters : memory.filters.filterMap (Write.stored? ∘ Write.filter) = memory.filters :=
    List.filterMap_some
  rw [registered, List.filterMap_append, List.filterMap_append, List.filterMap_map,
    List.filterMap_map, List.filterMap_map, providers, sublayers, filters]
  rfl

theorem filterMap_live (memory : Memory) :
    memory.live.filterMap Write.stored? = memory.numbered := by
  rw [live, List.filterMap_append, filterMap_registered, List.filterMap_flatMap]
  rfl

/-- No two filters have one number, be they in force or waiting. -/
theorem Sound.numbered_nodup (sound : memory.Sound) : (memory.numbered.map (·.id)).Nodup := by
  have marks : memory.live.Pairwise fun write other => write.mark ≠ other.mark :=
    List.pairwise_map.mp sound.marks_nodup
  rw [← filterMap_live]
  refine List.pairwise_map.mpr (marks.filterMap _ ?_)
  intro write other differs stored first stored' second same
  rw [Write.eq_filter_of_stored? first, Write.eq_filter_of_stored? second] at differs
  exact differs (congrArg Mark.filter same)

theorem Sound.find?_filters (sound : memory.Sound) {stored : Stored}
    (member : stored ∈ memory.filters) :
    memory.filters.find? (·.id = stored.id) = some stored := by
  have distinct : (memory.filters.map (·.id)).Nodup :=
    List.pairwise_map.mpr (sound.filters_sorted.imp Nat.ne_of_lt)
  cases found : memory.filters.find? (·.id = stored.id) with
  | none => exact absurd (decide_eq_true rfl) (List.find?_eq_none.mp found stored member)
  | some other =>
    have inside := List.mem_of_find?_eq_some found
    have same : other.id = stored.id := by simpa using List.find?_some found
    rw [List.inj_on_of_nodup_map distinct inside member same]

/-- The writes that reach the tables bring their filters into force. -/
theorem filters_perm {moved : List Write}
    (registered : next.registered.Perm (moved ++ memory.registered)) :
    next.filters.Perm (moved.filterMap Write.stored? ++ memory.filters) := by
  have filters := registered.filterMap Write.stored?
  rwa [List.filterMap_append, filterMap_registered, filterMap_registered] at filters

/-- A filter is granted by a call that adds it, under the number that is the answer. -/
theorem of_granted_filter {id : SessionId} {call : Call} {stored : Stored}
    (granted : call.granted (Memory.call id call memory).1 = some (.filter stored)) :
    call = .addFilter stored.ns stored.filter ∧
      (Memory.call id (.addFilter stored.ns stored.filter) memory).1 = .ok stored.id := by
  cases call with
  | addFilter ns filter =>
    cases answer : (Memory.call id (.addFilter ns filter) memory).1 with
    | error error =>
      rw [answer] at granted
      cases granted
    | ok number =>
      rw [answer] at granted
      cases granted
      exact ⟨rfl, answer⟩
  | addProvider name description =>
    generalize (Memory.call id (.addProvider name description) memory).1 = answer at granted
    cases answer <;> cases granted
  | addSublayer provider name description =>
    generalize (Memory.call id (.addSublayer provider name description) memory).1 = answer
      at granted
    cases answer <;> cases granted
  | begin => cases granted
  | commit => cases granted
  | abort => cases granted
  | close => cases granted

/-- The filter that decides is above all others that apply, by weight and then by number. -/
theorem Sound.below_decisive? (sound : memory.Sound) {packet : Packet} {best other : Stored}
    (decisive : memory.decisive? packet = some best) (member : other ∈ memory.filters)
    (applies : other.filter.applies packet = true) :
    other = best ∨ other.filter.weight < best.filter.weight ∨
      other.filter.weight = best.filter.weight ∧ other.id < best.id := by
  have apart : memory.filters.Pairwise (·.id ≠ ·.id) := sound.filters_sorted.imp Nat.ne_of_lt
  exact Stored.below_strongest? (apart.sublist List.filter_sublist) decisive
    (List.mem_filter.mpr ⟨member, applies⟩)

end Memory

namespace History

open Memory

/-- The move at place `k` was a call that added this filter. -/
def AddedAt (moves : List Move) (k : Nat) (stored : Stored) : Prop :=
  ∃ id, moves[k]? = some (.call id (.addFilter stored.ns stored.filter)) ∧
    (Memory.call id (.addFilter stored.ns stored.filter) (run (moves.take k)).memory).1 =
      .ok stored.id

/-! ## Places of filters in a run -/

variable {moves : List Move} {k : Nat} {stored : Stored}

theorem AddedAt.concat (added : AddedAt moves k stored) (move : Move) :
    AddedAt (moves ++ [move]) k stored := by
  obtain ⟨id, call, answer⟩ := added
  have below := (List.getElem?_eq_some_iff.mp call).1
  refine ⟨id, ?_, ?_⟩
  · rw [List.getElem?_append_left below, call]
  · rw [List.take_append_of_le_length (Nat.le_of_lt below), answer]

/-- A filter gets a number that is new then, and has been given out from then on. -/
theorem AddedAt.bounds (added : AddedAt moves k stored) :
    (run (moves.take k)).memory.lastFilter < stored.id ∧
      stored.id ≤ (run (moves.take (k + 1))).memory.lastFilter := by
  obtain ⟨id, call, answer⟩ := added
  have granted : (Call.addFilter stored.ns stored.filter).granted
      (Memory.call id (.addFilter stored.ns stored.filter) (run (moves.take k)).memory).1 =
        some (.filter stored) := by
    rw [answer]
    rfl
  cases found : (run (moves.take k)).memory.session? id with
  | none =>
    rw [Memory.call, found] at answer
    cases answer
  | some session =>
    refine ⟨(call_granted found granted).1, ?_⟩
    have sound := sound_run (moves.take (k + 1))
    have member : (id, Write.filter stored) ∈ (run (moves.take (k + 1))).granted := by
      rw [List.take_add_one, call, Option.toList_some, run_concat, after, granted]
      exact List.mem_append_right _ (List.mem_singleton_self _)
    exact (sound.known _ member).1

/-- Numbers grow with the places of the calls, whatever sessions made them. -/
theorem AddedAt.lt {j : Nat} {earlier : Stored} (before : j < k) (first : AddedAt moves j earlier)
    (second : AddedAt moves k stored) : earlier.id < stored.id :=
  have grows := grows_of_isPrefix (List.take_prefix_take_left before)
  Nat.lt_of_le_of_lt (Nat.le_trans first.bounds.2 grows.lastFilter) second.bounds.1

/-- One move adds one filter at most. -/
theorem AddedAt.unique {other : Stored} (first : AddedAt moves k stored)
    (second : AddedAt moves k other) : stored = other := by
  obtain ⟨id, call, answer⟩ := first
  obtain ⟨id', call', answer'⟩ := second
  rw [call, Option.some.injEq, Move.call.injEq, Call.addFilter.injEq] at call'
  obtain ⟨rfl, ns, filter⟩ := call'
  cases stored
  cases other
  subst ns filter
  rw [answer, Except.ok.injEq] at answer'
  exact congrArg (Stored.mk · _ _) answer'

/-- Of two filters the one with the lower number was added earlier. -/
theorem AddedAt.before {j : Nat} {other : Stored} (first : AddedAt moves j stored)
    (second : AddedAt moves k other) (lower : stored.id < other.id) : j < k := by
  rcases Nat.lt_trichotomy j k with before | rfl | after
  · exact before
  · exact absurd (first.unique second ▸ lower) (Nat.lt_irrefl _)
  · exact absurd (second.lt after first) (Nat.lt_asymm lower)

/-- A filter that was granted to a session was added by a call. -/
theorem exists_addedAt {id : SessionId} (granted : (id, .filter stored) ∈ (run moves).granted) :
    ∃ k, AddedAt moves k stored := by
  induction moves using List.reverseRecOn with
  | nil => cases granted
  | append_singleton earlier move ih =>
    have kept : (id, .filter stored) ∈ (run earlier).granted →
        ∃ k, AddedAt (earlier ++ [move]) k stored := fun before =>
      (ih before).imp fun _ added => added.concat move
    rw [run_concat] at granted
    cases move with
    | openSession => exact kept granted
    | drop other => exact kept granted
    | rearm k failing => exact kept granted
    | call other call =>
      rcases List.mem_append.mp granted with before | new
      · exact kept before
      · rw [Option.mem_toList, Option.map_eq_some_iff] at new
        obtain ⟨write, is, same⟩ := new
        cases same
        obtain ⟨rfl, answer⟩ := of_granted_filter is
        refine ⟨earlier.length, _, List.getElem?_concat_length, ?_⟩
        rw [List.take_left, answer]

/-- Every filter in force or waiting was added at one move of the run. -/
theorem existsUnique_addedAt (member : stored ∈ (run moves).memory.numbered) :
    ∃! k, AddedAt moves k stored := by
  have sound := sound_run moves
  have granted : ∃ id, (id, .filter stored) ∈ (run moves).granted := by
    rcases List.mem_append.mp member with inForce | waits
    · exact sound.registered_granted _ (filter_mem_registered.mpr inForce)
    · obtain ⟨session, inside, waits⟩ := List.mem_flatMap.mp waits
      obtain ⟨write, waits, is⟩ := List.mem_filterMap.mp waits
      rw [Write.eq_filter_of_stored? is] at waits
      exact ⟨session.id, sound.staged_granted session inside _ waits⟩
  obtain ⟨id, granted⟩ := granted
  obtain ⟨k, added⟩ := exists_addedAt granted
  refine ⟨k, added, fun j again => ?_⟩
  rcases Nat.lt_trichotomy j k with before | same | after
  · exact absurd (again.lt before added) (Nat.lt_irrefl _)
  · exact same
  · exact absurd (added.lt after again) (Nat.lt_irrefl _)

/-! ## What moves do to filters in force -/

/-- A move brings filters into force beside those that are, or ends a session. -/
theorem filters_after {history : History} (sound : history.Sound) (move : Move) :
    (∃ added, (history.after move).memory.filters.Perm (added ++ history.memory.filters)) ∨
      ∃ id, (move = .call id .close ∨ move = .drop id) ∧
        ∀ stored, stored ∈ (history.after move).memory.filters ↔
          stored ∈ history.memory.filters ∧
            (stored.ns.provider, id) ∉ history.memory.providers := by
  have calls : ∀ id call,
      (∃ added, (history.after (.call id call)).memory.filters.Perm
        (added ++ history.memory.filters)) ∨
      call = .close ∧ ∀ stored, stored ∈ (history.after (.call id call)).memory.filters ↔
        stored ∈ history.memory.filters ∧
          (stored.ns.provider, id) ∉ history.memory.providers := by
    intro id call
    cases found : history.memory.session? id with
    | none =>
      have same := (call_of_not_opened (session?_eq_none_iff_not_opened.mp found) call).2
      refine Or.inl ⟨[], ?_⟩
      rw [after, same]
      exact List.Perm.refl _
    | some session =>
      obtain ⟨_, rfl⟩ := session?_eq_some found
      have effect := sound.memory.call_effect found call
      rw [after]
      generalize call.granted (Memory.call session.id call history.memory).1 = granted at effect
      generalize (Memory.call session.id call history.memory).2 = next at effect ⊢
      cases effect with
      | keep staged moved waiting moving landed sessions registered providers =>
        exact Or.inl ⟨_, filters_perm registered⟩
      | close sessions registered providers =>
        refine Or.inr ⟨rfl, fun stored => ?_⟩
        have held := registered (.filter stored)
        rwa [filter_mem_registered, filter_mem_registered] at held
  cases move with
  | openSession => exact Or.inl ⟨[], List.Perm.refl _⟩
  | rearm k failing => exact Or.inl ⟨[], List.Perm.refl _⟩
  | call id call =>
    rcases calls id call with kept | ⟨rfl, left⟩
    · exact Or.inl kept
    · exact Or.inr ⟨id, Or.inl rfl, left⟩
  | drop id =>
    rw [history.after_drop id]
    exact (calls id .close).imp_right fun left => ⟨id, Or.inr rfl, left.2⟩

/-! ## Numbers and verdicts -/

/-- A filter in force that applies to a packet and is above all others that do: by weight, and among
equal weights by the place of the call that added it. -/
structure Foremost (moves : List Move) (packet : Packet) (stored : Stored) : Prop where
  mem : stored ∈ (run moves).memory.filters
  applies : stored.filter.applies packet = true
  greatest : ∀ other ∈ (run moves).memory.filters, other.filter.applies packet = true →
    other = stored ∨ other.filter.weight < stored.filter.weight ∨
      other.filter.weight = stored.filter.weight ∧
        ∀ j k, AddedAt moves j other → AddedAt moves k stored → j < k

/-- The filter that decides a packet is foremost, as numbers grow with places. -/
theorem Foremost.of_decisive? (sound : (run moves).memory.Sound) {packet : Packet}
    (decisive : (run moves).memory.decisive? packet = some stored) :
    Foremost moves packet stored := by
  obtain ⟨member, applies⟩ := List.mem_filter.mp (Stored.mem_of_strongest? decisive)
  refine ⟨member, applies, fun other inside applies => ?_⟩
  refine (sound.below_decisive? decisive inside applies).imp_right (Or.imp_right fun below => ?_)
  exact ⟨below.1, fun j k first second => first.before second below.2⟩

theorem Foremost.unique {packet : Packet} {other : Stored} (first : Foremost moves packet stored)
    (second : Foremost moves packet other) : other = stored := by
  rcases first.greatest other second.mem second.applies with same | lighter | ⟨even, before⟩
  · exact same
  · rcases second.greatest stored first.mem first.applies with same | heavier | ⟨even, _⟩
    · exact same.symm
    · exact absurd heavier (UInt8.lt_asymm lighter)
    · exact absurd even.symm (UInt8.ne_of_lt lighter)
  · rcases second.greatest stored first.mem first.applies with same | heavier | ⟨_, after⟩
    · exact same.symm
    · exact absurd even.symm (UInt8.ne_of_lt heavier)
    · obtain ⟨j, here, _⟩ := existsUnique_addedAt (List.mem_append_left _ second.mem)
      obtain ⟨k, there, _⟩ := existsUnique_addedAt (List.mem_append_left _ first.mem)
      exact absurd (after k j there here) (Nat.lt_asymm (before j k here there))

/-- What holds of the numbers of filters, and of the verdicts, after any moves. -/
structure Ordered (moves : List Move) : Prop where
  /-- No two filters have one number, be they in force or waiting in a transaction. -/
  numbers_nodup : ((run moves).memory.numbered.map (·.id)).Nodup
  /-- A filter in force is found by its own number. -/
  found : ∀ stored ∈ (run moves).memory.filters,
    (run moves).memory.filters.find? (·.id = stored.id) = some stored
  /-- The next move replaces no filter.  Only the end of a session takes filters away, those under
  its own providers. -/
  kept : ∀ move,
    (∃ added, (run (moves ++ [move])).memory.filters.Perm (added ++ (run moves).memory.filters)) ∨
      ∃ id, (move = .call id .close ∨ move = .drop id) ∧
        ∀ stored, stored ∈ (run (moves ++ [move])).memory.filters ↔
          stored ∈ (run moves).memory.filters ∧
            (stored.ns.provider, id) ∉ (run moves).memory.providers
  /-- A commit that passes brings all filters into force that wait in the session. -/
  committed : ∀ id session, (run moves).memory.session? id = some session →
    (run moves).memory.failCommit = false → ∀ stored, .filter stored ∈ session.writes →
      stored ∈ (run (moves ++ [.call id .commit])).memory.filters
  /-- Numbers increase in the order of the calls, whatever sessions make them. -/
  increasing : ∀ j k earlier later, j < k → AddedAt moves j earlier → AddedAt moves k later →
    earlier.id < later.id
  /-- Each filter was added at one place of the run. -/
  placed : ∀ stored ∈ (run moves).memory.numbered, ∃! k, AddedAt moves k stored
  /-- If any filter applies to a packet, one is foremost, and it decides. -/
  decides : ∀ packet,
    ((∀ stored ∈ (run moves).memory.filters, stored.filter.applies packet = false) ∧
        (run moves).memory.classify packet = none) ∨
      (∃! stored, Foremost moves packet stored) ∧ ∀ stored, Foremost moves packet stored →
        (run moves).memory.classify packet = some stored.filter.action

/-- Numbers and verdicts are in order after any moves. -/
theorem ordered_run (moves : List Move) : Ordered moves := by
  have sound := sound_run moves
  refine ⟨sound.memory.numbered_nodup, fun stored member => ?_, fun move => ?_,
    fun id session opened passing stored waits => ?_,
    fun j k earlier later before first second => first.lt before second,
    fun stored member => existsUnique_addedAt member, fun packet => ?_⟩
  · exact sound.memory.find?_filters member
  · rw [run_concat]
    exact filters_after sound move
  · rw [run_concat]
    exact filter_mem_registered.mp (sound.memory.registered_of_commit opened passing waits)
  · cases decisive : (run moves).memory.decisive? packet with
    | none =>
      have nothing := Stored.strongest?_eq_none decisive
      refine Or.inl ⟨fun stored member => ?_, ?_⟩
      · exact Bool.eq_false_iff.mpr (List.filter_eq_nil_iff.mp nothing stored member)
      · rw [classify, decisive]
        rfl
    | some best =>
      have foremost := Foremost.of_decisive? sound.memory decisive
      have alone : ∀ other, Foremost moves packet other → other = best := fun _ =>
        foremost.unique
      refine Or.inr ⟨⟨best, foremost, alone⟩, fun other first => ?_⟩
      rw [classify, decisive, Option.map_some, alone other first]

end History

end TrafficPolicy
