import Mathlib.Data.List.Nodup
import TrafficPolicy.Engine.Memory

/-!
# Live writes

A write is *live* in an engine in memory while it stands in the tables or waits in the transaction
of an open session.  What a write is found by is its `Mark`: the key of a provider, the key of a
sublayer, the number of a filter.

`Memory.Sound` says that no two live writes have the same mark, that every key and number in use
has been given out, and that the filters are in the order of their numbers.  A key or number that
is given out next is then new to the whole engine.
-/

namespace TrafficPolicy

/-- What a write is found by in the tables. -/
inductive Mark where
  | provider (key : Key)
  | sublayer (key : Key)
  | filter (id : FilterId)
  deriving DecidableEq, Repr

namespace Write

/-- The mark of a write. -/
def mark : Write → Mark
  | provider key => .provider key
  | sublayer key _ => .sublayer key
  | filter stored => .filter stored.id

/-- The filter that a write puts into the tables. -/
def stored? : Write → Option Stored
  | filter stored => some stored
  | provider _ | sublayer .. => none

end Write

/-- The writes that wait in a session. -/
def Session.writes (session : Session) : List Write :=
  session.staged.getD []

namespace Stored

/-! ## Filters in the order of their numbers -/

theorem insert_perm {stored : Stored} {list : List Stored}
    (fresh : ∀ other ∈ list, other.id ≠ stored.id) :
    (stored.insert list).Perm (stored :: list) := by
  induction list with
  | nil => exact List.Perm.refl _
  | cons other rest ih =>
    have differs : stored.id ≠ other.id := (fresh other (by simp)).symm
    have tail := ih fun entry inside => fresh entry (List.mem_cons_of_mem _ inside)
    unfold insert
    split
    · exact List.Perm.refl _
    · exact (tail.cons other).trans (List.Perm.swap stored other rest)

theorem pairwise_insert {stored : Stored} {list : List Stored}
    (sorted : list.Pairwise (·.id < ·.id)) (fresh : ∀ other ∈ list, other.id ≠ stored.id) :
    (stored.insert list).Pairwise (·.id < ·.id) := by
  induction list with
  | nil => simp [insert]
  | cons other rest ih =>
    obtain ⟨first, sorted⟩ := List.pairwise_cons.mp sorted
    have differs : stored.id ≠ other.id := (fresh other (by simp)).symm
    have fresh' : ∀ entry ∈ rest, entry.id ≠ stored.id := fun entry inside =>
      fresh entry (List.mem_cons_of_mem _ inside)
    unfold insert
    split
    next below =>
      refine List.pairwise_cons.mpr ⟨?_, List.pairwise_cons.mpr ⟨first, sorted⟩⟩
      intro entry inside
      rcases List.mem_cons.mp inside with rfl | inside
      · exact below
      · exact Nat.lt_trans below (first entry inside)
    next notBelow =>
      refine List.pairwise_cons.mpr ⟨?_, ih sorted fresh'⟩
      intro entry inside
      rcases List.mem_cons.mp ((insert_perm fresh').mem_iff.mp inside) with rfl | inside
      · exact Nat.lt_of_le_of_ne (Nat.not_lt.mp notBelow) differs.symm
      · exact first entry inside

end Stored

namespace Memory

/-- The writes that stand in the tables. -/
def registered (memory : Memory) : List Write :=
  memory.providers.map (fun entry => .provider entry.1) ++
    memory.sublayers.map (fun entry => .sublayer entry.1 entry.2) ++
    memory.filters.map .filter

/-- The writes that stand in the tables or wait in a session. -/
def live (memory : Memory) : List Write :=
  memory.registered ++ memory.sessions.flatMap (·.writes)

/-- A key that has been given out. -/
def Drawn (memory : Memory) (key : Key) : Prop :=
  ∃ n < memory.keysDrawn, key = Key.draw n

/-- A write that mentions nothing but what has been given out. -/
def Knows (memory : Memory) : Write → Prop
  | .provider key => memory.Drawn key
  | .sublayer key provider => memory.Drawn key ∧ memory.Drawn provider
  | .filter stored => stored.id ≤ memory.lastFilter ∧ memory.Drawn stored.ns.provider

/-- No two live writes have one mark, and all that is in use has been given out. -/
structure Sound (memory : Memory) : Prop where
  numbers_nodup : (memory.sessions.map (·.id)).Nodup
  number_le : ∀ session ∈ memory.sessions, session.id ≤ memory.lastSession
  owner_le : ∀ entry ∈ memory.providers, entry.2 ≤ memory.lastSession
  known : ∀ write ∈ memory.live, memory.Knows write
  marks_nodup : (memory.live.map Write.mark).Nodup
  filters_sorted : memory.filters.Pairwise (·.id < ·.id)
  staged_sorted : ∀ session ∈ memory.sessions,
    (session.writes.filterMap Write.stored?).Pairwise (·.id < ·.id)

theorem provider_registered {memory : Memory} {entry : Key × SessionId}
    (member : entry ∈ memory.providers) : Write.provider entry.1 ∈ memory.registered := by
  simp only [registered, List.mem_append, List.mem_map]
  exact Or.inl (Or.inl ⟨entry, member, rfl⟩)

theorem sublayer_registered {memory : Memory} {entry : Key × Key}
    (member : entry ∈ memory.sublayers) :
    Write.sublayer entry.1 entry.2 ∈ memory.registered := by
  simp only [registered, List.mem_append, List.mem_map]
  exact Or.inl (Or.inr ⟨entry, member, rfl⟩)

theorem filter_registered {memory : Memory} {stored : Stored} (member : stored ∈ memory.filters) :
    Write.filter stored ∈ memory.registered := by
  simp only [registered, List.mem_append, List.mem_map]
  exact Or.inr ⟨stored, member, rfl⟩

/-- All that hangs under a provider hangs under a key that has been given out. -/
theorem Sound.drawn_of_mem {memory : Memory} (sound : memory.Sound) :
    (∀ entry ∈ memory.providers, memory.Drawn entry.1) ∧
      (∀ entry ∈ memory.sublayers, memory.Drawn entry.2) ∧
      ∀ stored ∈ memory.filters, memory.Drawn stored.ns.provider := by
  have known : ∀ write ∈ memory.registered, memory.Knows write := fun write member =>
    sound.known write (List.mem_append_left _ member)
  refine ⟨fun entry member => ?_, fun entry member => ?_, fun stored member => ?_⟩
  · exact known _ (provider_registered member)
  · exact (known _ (sublayer_registered member)).2
  · exact (known _ (filter_registered member)).2

theorem Sound.providers_nodup {memory : Memory} (sound : memory.Sound) :
    (memory.providers.map (·.1)).Nodup := by
  have marks := sound.marks_nodup
  simp only [live, registered, List.map_append, List.append_assoc] at marks
  have providers := (List.nodup_append.mp marks).1
  rw [List.map_map] at providers
  refine List.Nodup.of_map Mark.provider ?_
  rw [List.map_map]
  exact providers

theorem Sound.sublayers_nodup {memory : Memory} (sound : memory.Sound) :
    (memory.sublayers.map (·.1)).Nodup := by
  have marks := sound.marks_nodup
  simp only [live, registered, List.map_append, List.append_assoc] at marks
  have sublayers := (List.nodup_append.mp (List.nodup_append.mp marks).2.1).1
  rw [List.map_map] at sublayers
  refine List.Nodup.of_map Mark.sublayer ?_
  rw [List.map_map]
  exact sublayers

theorem Drawn.mono {memory next : Memory} {key : Key} (drawn : memory.Drawn key)
    (more : memory.keysDrawn ≤ next.keysDrawn) : next.Drawn key := by
  obtain ⟨n, below, rfl⟩ := drawn
  exact ⟨n, Nat.lt_of_lt_of_le below more, rfl⟩

theorem Knows.mono {memory next : Memory} {write : Write} (known : memory.Knows write)
    (keys : memory.keysDrawn ≤ next.keysDrawn) (ids : memory.lastFilter ≤ next.lastFilter) :
    next.Knows write := by
  cases write with
  | provider key => exact Drawn.mono known keys
  | sublayer key provider => exact ⟨known.1.mono keys, known.2.mono keys⟩
  | filter stored => exact ⟨Nat.le_trans known.1 ids, known.2.mono keys⟩

/-- The key that is given out next has not been given out yet. -/
theorem not_drawn_next (memory : Memory) : ¬ memory.Drawn (Key.draw memory.keysDrawn) := by
  rintro ⟨n, below, same⟩
  exact Nat.ne_of_gt below (Key.draw_injective same)

/-! ## Sessions found by number -/

theorem session?_eq_some {memory : Memory} {id : SessionId} {session : Session}
    (found : memory.session? id = some session) : session ∈ memory.sessions ∧ session.id = id :=
  ⟨List.mem_of_find?_eq_some found, by simpa using List.find?_some found⟩

theorem session?_eq_none_iff {memory : Memory} {id : SessionId} :
    memory.session? id = none ↔ ∀ session ∈ memory.sessions, session.id ≠ id := by
  simp [session?]

/-- An open session among all others: only it is touched when its transaction changes, and only it
is missing when it ends. -/
theorem Sound.exists_others {memory : Memory} (sound : memory.Sound) {id : SessionId}
    {session : Session} (found : memory.session? id = some session) :
    ∃ others : List Session, (∀ other ∈ others, other.id ≠ id) ∧
      memory.sessions.Perm (session :: others) ∧
      (∀ staged, (memory.setStaged id staged).sessions.Perm ({ session with staged } :: others)) ∧
      (memory.sessions.filter (·.id ≠ id)).Perm others := by
  obtain ⟨member, rfl⟩ := session?_eq_some found
  let others := memory.sessions.filter (·.id ≠ session.id)
  have apart : ∀ other ∈ others, other.id ≠ session.id := fun other inside => by
    simpa using (List.mem_filter.mp inside).2
  have alone : memory.sessions.filter (·.id = session.id) = [session] := by
    have nodup : ((memory.sessions.filter (·.id = session.id)).map (·.id)).Nodup :=
      sound.numbers_nodup.sublist (List.filter_sublist.map _)
    have inside : session ∈ memory.sessions.filter (·.id = session.id) := by simp [member]
    match h : memory.sessions.filter (·.id = session.id) with
    | [] => simp [h] at inside
    | [_] => simp_all
    | first :: second :: rest =>
      have same : ∀ other ∈ memory.sessions.filter (·.id = session.id),
          other.id = session.id := by simp
      rw [h] at nodup same
      simp [same first (by simp), same second (by simp)] at nodup
  have perm : memory.sessions.Perm (session :: others) := by
    have split := List.filter_append_perm (fun s : Session => s.id = session.id) memory.sessions
    rw [alone] at split
    simpa [others] using split.symm
  refine ⟨others, apart, perm, fun staged => ?_, List.Perm.refl _⟩
  let change : Session → Session := fun s => if s.id = session.id then { s with staged } else s
  have kept : others.map change = others := by
    have eq : others.map change = others.map id :=
      List.map_congr_left fun other inside => by simp [change, apart other inside]
    rw [eq, List.map_id]
  have mapped := perm.map change
  rw [List.map_cons, kept] at mapped
  simpa [change, setStaged] using mapped

/-- The live writes with those of an open session apart, before and after its transaction
changes. -/
theorem Sound.exists_live {memory : Memory} (sound : memory.Sound) {id : SessionId}
    {session : Session} (found : memory.session? id = some session) :
    ∃ elsewhere : List Write, memory.live.Perm (session.writes ++ elsewhere) ∧
      (∀ staged, (memory.setStaged id staged).live.Perm (staged.getD [] ++ elsewhere)) ∧
      memory.registered ⊆ elsewhere ∧
      ∀ other ∈ memory.sessions, other.id ≠ id → other.writes ⊆ elsewhere := by
  obtain ⟨others, apart, before, after, _⟩ := sound.exists_others found
  have split : ∀ {sessions : List Session} {first : Session}, sessions.Perm (first :: others) →
      (memory.registered ++ sessions.flatMap (·.writes)).Perm
        (first.writes ++ (memory.registered ++ others.flatMap (·.writes))) := by
    intro sessions first perm
    have inner := (perm.flatMap_right (·.writes)).append_left memory.registered
    exact inner.trans (by simpa using List.perm_append_comm_assoc _ _ _)
  refine ⟨memory.registered ++ others.flatMap (·.writes), split before,
    fun staged => split (after staged), List.subset_append_left _ _, ?_⟩
  intro other member differs write inside
  have place : other ∈ others := by
    rcases List.mem_cons.mp (before.mem_iff.mp member) with rfl | place
    · exact absurd (session?_eq_some found).2 differs
    · exact place
  exact List.mem_append_right _ (List.mem_flatMap.mpr ⟨other, place, inside⟩)

/-! ## What changes of sessions and tables keep -/

/-- Counters may grow. -/
theorem Sound.grow {memory next : Memory} (sound : memory.Sound)
    (sessions : next.sessions = memory.sessions) (providers : next.providers = memory.providers)
    (sublayers : next.sublayers = memory.sublayers) (filters : next.filters = memory.filters)
    (numbers : memory.lastSession ≤ next.lastSession) (keys : memory.keysDrawn ≤ next.keysDrawn)
    (ids : memory.lastFilter ≤ next.lastFilter) : next.Sound := by
  have live : next.live = memory.live := by
    simp only [Memory.live, registered, sessions, providers, sublayers, filters]
  constructor
  · rw [sessions]
    exact sound.numbers_nodup
  · rw [sessions]
    exact fun session member => Nat.le_trans (sound.number_le session member) numbers
  · rw [providers]
    exact fun entry member => Nat.le_trans (sound.owner_le entry member) numbers
  · rw [live]
    exact fun write member => (sound.known write member).mono keys ids
  · rw [live]
    exact sound.marks_nodup
  · rw [filters]
    exact sound.filters_sorted
  · rw [sessions]
    exact sound.staged_sorted

theorem mem_setStaged {memory : Memory} {id : SessionId} {staged : Option (List Write)}
    {session : Session} (member : session ∈ (memory.setStaged id staged).sessions) :
    session = ⟨id, staged⟩ ∨ session ∈ memory.sessions ∧ session.id ≠ id := by
  simp only [setStaged, List.mem_map] at member
  obtain ⟨old, inside, rfl⟩ := member
  split
  next same => exact Or.inl (by rw [same])
  next differs => exact Or.inr ⟨inside, differs⟩

theorem map_id_setStaged (memory : Memory) (id : SessionId) (staged : Option (List Write)) :
    (memory.setStaged id staged).sessions.map (·.id) = memory.sessions.map (·.id) := by
  simp only [setStaged, List.map_map]
  refine List.map_congr_left fun other _ => ?_
  by_cases same : other.id = id <;> simp [same]

theorem Sound.setStaged {memory : Memory} (sound : memory.Sound) {id : SessionId}
    {session : Session} (found : memory.session? id = some session)
    {staged : Option (List Write)} (known : ∀ write ∈ staged.getD [], memory.Knows write)
    (nodup : ∀ elsewhere : List Write, memory.live.Perm (session.writes ++ elsewhere) →
      ((staged.getD [] ++ elsewhere).map Write.mark).Nodup)
    (sorted : ((staged.getD []).filterMap Write.stored?).Pairwise (·.id < ·.id)) :
    (memory.setStaged id staged).Sound := by
  obtain ⟨elsewhere, before, after, _⟩ := sound.exists_live found
  constructor
  · rw [map_id_setStaged]
    exact sound.numbers_nodup
  · intro other member
    rcases mem_setStaged member with rfl | ⟨inside, _⟩
    · obtain ⟨inside, rfl⟩ := session?_eq_some found
      exact sound.number_le session inside
    · exact sound.number_le _ inside
  · exact sound.owner_le
  · intro write member
    rcases List.mem_append.mp ((after staged).mem_iff.mp member) with inside | inside
    · exact (known write inside).mono (Nat.le_refl _) (Nat.le_refl _)
    · exact (sound.known write (before.mem_iff.mpr (List.mem_append_right _ inside))).mono
        (Nat.le_refl _) (Nat.le_refl _)
  · exact ((after staged).map Write.mark).nodup_iff.mpr (nodup elsewhere before)
  · exact sound.filters_sorted
  · intro other member
    rcases mem_setStaged member with rfl | ⟨inside, _⟩
    · exact sorted
    · exact sound.staged_sorted other inside

/-- A transaction may begin, and it may be forgotten. -/
theorem Sound.setStaged_of_sublist {memory : Memory} (sound : memory.Sound) {id : SessionId}
    {session : Session} (found : memory.session? id = some session)
    {staged : Option (List Write)} (less : (staged.getD []).Sublist session.writes) :
    (memory.setStaged id staged).Sound := by
  obtain ⟨elsewhere, before, _⟩ := sound.exists_live found
  refine sound.setStaged found (fun write member => ?_) (fun elsewhere split => ?_) ?_
  · exact sound.known write (before.mem_iff.mpr (List.mem_append_left _ (less.subset member)))
  · have all := (split.map Write.mark).nodup_iff.mp sound.marks_nodup
    exact all.sublist ((less.append_right elsewhere).map Write.mark)
  · exact (sound.staged_sorted session (session?_eq_some found).1).sublist (less.filterMap _)

/-- What waits in a session has marks that nothing else has. -/
theorem Sound.nodup_unstaged {memory : Memory} (sound : memory.Sound) {id : SessionId}
    {session : Session} (found : memory.session? id = some session) :
    ((session.writes ++ (memory.setStaged id none).live).map Write.mark).Nodup := by
  obtain ⟨elsewhere, before, after, _⟩ := sound.exists_live found
  have moved : (session.writes ++ (memory.setStaged id none).live).Perm memory.live :=
    ((after none).append_left _).trans before.symm
  exact (moved.map Write.mark).nodup_iff.mpr sound.marks_nodup

/-- A write may be added to a transaction if its mark is new and its number, if it has one, comes
after those that wait already. -/
theorem Sound.stage {memory : Memory} (sound : memory.Sound) {id : SessionId}
    {session : Session} (found : memory.session? id = some session) {write : Write}
    (known : memory.Knows write) (fresh : write.mark ∉ memory.live.map Write.mark)
    (later : ∀ stored, write = .filter stored →
      ∀ earlier ∈ session.writes.filterMap Write.stored?, earlier.id < stored.id) :
    (memory.setStaged id (some (session.writes ++ [write]))).Sound := by
  obtain ⟨elsewhere, before, _⟩ := sound.exists_live found
  refine sound.setStaged found (fun other member => ?_) (fun elsewhere split => ?_) ?_
  · rcases List.mem_append.mp member with inside | inside
    · exact sound.known other (before.mem_iff.mpr (List.mem_append_left _ inside))
    · exact List.mem_singleton.mp inside ▸ known
  · have all : ((write :: memory.live).map Write.mark).Nodup :=
      List.nodup_cons.mpr ⟨fresh, sound.marks_nodup⟩
    have moved : (session.writes ++ [write] ++ elsewhere).Perm (write :: memory.live) := by
      rw [List.append_assoc, List.singleton_append]
      exact List.perm_middle.trans (split.symm.cons write)
    exact (moved.map Write.mark).nodup_iff.mpr all
  · have waiting := sound.staged_sorted session (session?_eq_some found).1
    rw [Option.getD_some, List.filterMap_append]
    refine List.pairwise_append.mpr ⟨waiting, ?_, fun earlier inside last place => ?_⟩
    · cases write <;> simp [Write.stored?, List.filterMap_cons]
    · cases write with
      | filter stored =>
        simp only [Write.stored?, List.filterMap_cons, List.filterMap_nil,
          List.mem_singleton] at place
        exact place ▸ later stored rfl earlier inside
      | provider key => simp [Write.stored?] at place
      | sublayer key provider => simp [Write.stored?] at place

/-! ## Writes that reach the tables -/

/-- What stands in the tables has a mark that is not new. -/
theorem mark_ne_of_fresh {memory : Memory} {mark : Mark}
    (fresh : mark ∉ memory.live.map Write.mark) {write : Write}
    (member : write ∈ memory.registered) : write.mark ≠ mark :=
  fun same => fresh (List.mem_map.mpr ⟨write, List.mem_append_left _ member, same⟩)

theorem filter_providers_of_fresh {memory : Memory} {key : Key}
    (fresh : Mark.provider key ∉ memory.live.map Write.mark) :
    memory.providers.filter (·.1 ≠ key) = memory.providers :=
  List.filter_eq_self.mpr fun _ inside => decide_eq_true fun same =>
    mark_ne_of_fresh fresh (provider_registered inside) (congrArg Mark.provider same)

theorem filter_sublayers_of_fresh {memory : Memory} {key : Key}
    (fresh : Mark.sublayer key ∉ memory.live.map Write.mark) :
    memory.sublayers.filter (·.1 ≠ key) = memory.sublayers :=
  List.filter_eq_self.mpr fun _ inside => decide_eq_true fun same =>
    mark_ne_of_fresh fresh (sublayer_registered inside) (congrArg Mark.sublayer same)

theorem id_ne_of_fresh {memory : Memory} {id : FilterId}
    (fresh : Mark.filter id ∉ memory.live.map Write.mark) :
    ∀ stored ∈ memory.filters, stored.id ≠ id :=
  fun _ inside same =>
    mark_ne_of_fresh fresh (filter_registered inside) (congrArg Mark.filter same)

/-- A write with a new mark is added to the tables and takes the place of nothing. -/
theorem live_apply {memory : Memory} {write : Write} (owner : SessionId)
    (fresh : write.mark ∉ memory.live.map Write.mark) :
    (memory.apply owner write).live.Perm (write :: memory.live) := by
  have sessions : (memory.apply owner write).sessions = memory.sessions := by
    cases write <;> rfl
  rw [live, live, sessions, ← List.cons_append]
  refine List.Perm.append_right _ ?_
  cases write with
  | provider key =>
    simp only [registered, Memory.apply, filter_providers_of_fresh fresh]
    exact List.Perm.refl _
  | sublayer key provider =>
    simp only [registered, Memory.apply, filter_sublayers_of_fresh fresh, List.map_cons,
      List.append_assoc]
    exact List.perm_middle
  | filter stored =>
    simp only [registered, Memory.apply]
    have inserted := (Stored.insert_perm (id_ne_of_fresh fresh)).map Write.filter
    exact (inserted.append_left _).trans List.perm_middle

/-- Of writes with new marks the first may be applied before the others. -/
theorem fresh_of_nodup {memory : Memory} {write : Write} {rest : List Write} (owner : SessionId)
    (nodup : ((write :: rest ++ memory.live).map Write.mark).Nodup) :
    write.mark ∉ memory.live.map Write.mark ∧
      (rest ++ (memory.apply owner write).live).Perm (write :: rest ++ memory.live) := by
  have fresh : write.mark ∉ memory.live.map Write.mark := by
    rw [List.cons_append, List.map_cons, List.nodup_cons, List.map_append] at nodup
    exact fun inside => nodup.1 (List.mem_append_right _ inside)
  exact ⟨fresh, ((live_apply owner fresh).append_left rest).trans List.perm_middle⟩

@[simp]
theorem apply_sessions (owner : SessionId) (memory : Memory) (write : Write) :
    (memory.apply owner write).sessions = memory.sessions := by
  cases write <;> rfl

@[simp]
theorem apply_lastSession (owner : SessionId) (memory : Memory) (write : Write) :
    (memory.apply owner write).lastSession = memory.lastSession := by
  cases write <;> rfl

@[simp]
theorem apply_keysDrawn (owner : SessionId) (memory : Memory) (write : Write) :
    (memory.apply owner write).keysDrawn = memory.keysDrawn := by
  cases write <;> rfl

@[simp]
theorem apply_lastFilter (owner : SessionId) (memory : Memory) (write : Write) :
    (memory.apply owner write).lastFilter = memory.lastFilter := by
  cases write <;> rfl

@[simp]
theorem foldl_apply_sessions (owner : SessionId) (writes : List Write) (memory : Memory) :
    (writes.foldl (Memory.apply owner) memory).sessions = memory.sessions := by
  induction writes generalizing memory with
  | nil => rfl
  | cons write rest ih => rw [List.foldl_cons, ih, apply_sessions]

@[simp]
theorem foldl_apply_lastSession (owner : SessionId) (writes : List Write) (memory : Memory) :
    (writes.foldl (Memory.apply owner) memory).lastSession = memory.lastSession := by
  induction writes generalizing memory with
  | nil => rfl
  | cons write rest ih => rw [List.foldl_cons, ih, apply_lastSession]

@[simp]
theorem foldl_apply_keysDrawn (owner : SessionId) (writes : List Write) (memory : Memory) :
    (writes.foldl (Memory.apply owner) memory).keysDrawn = memory.keysDrawn := by
  induction writes generalizing memory with
  | nil => rfl
  | cons write rest ih => rw [List.foldl_cons, ih, apply_keysDrawn]

theorem Sound.apply {memory : Memory} (sound : memory.Sound) {owner : SessionId}
    (opened : owner ≤ memory.lastSession) {write : Write} (known : memory.Knows write)
    (fresh : write.mark ∉ memory.live.map Write.mark) : (memory.apply owner write).Sound := by
  have live := live_apply owner fresh
  constructor
  · simpa using sound.numbers_nodup
  · simpa using sound.number_le
  · intro entry member
    rw [apply_lastSession]
    cases write with
    | provider key =>
      rcases List.mem_cons.mp member with rfl | inside
      · exact opened
      · exact sound.owner_le entry (List.mem_filter.mp inside).1
    | sublayer key provider => exact sound.owner_le entry member
    | filter stored => exact sound.owner_le entry member
  · intro other member
    have mono : memory.Knows other → (memory.apply owner write).Knows other := fun old =>
      old.mono (by simp) (by simp)
    rcases List.mem_cons.mp (live.mem_iff.mp member) with rfl | inside
    · exact mono known
    · exact mono (sound.known other inside)
  · exact (live.map Write.mark).nodup_iff.mpr (List.nodup_cons.mpr ⟨fresh, sound.marks_nodup⟩)
  · cases write with
    | provider key => exact sound.filters_sorted
    | sublayer key provider => exact sound.filters_sorted
    | filter stored =>
      exact Stored.pairwise_insert sound.filters_sorted (id_ne_of_fresh fresh)
  · simpa using sound.staged_sorted

/-- The writes of a transaction reach the tables one after the other. -/
theorem Sound.foldl_apply {owner : SessionId} {writes : List Write} {memory : Memory}
    (sound : memory.Sound) (opened : owner ≤ memory.lastSession)
    (known : ∀ write ∈ writes, memory.Knows write)
    (nodup : ((writes ++ memory.live).map Write.mark).Nodup) :
    (writes.foldl (Memory.apply owner) memory).Sound ∧
      (writes.foldl (Memory.apply owner) memory).live.Perm (writes ++ memory.live) := by
  induction writes generalizing memory with
  | nil => exact ⟨sound, List.Perm.refl _⟩
  | cons write rest ih =>
    obtain ⟨fresh, middle⟩ := fresh_of_nodup owner nodup
    obtain ⟨sound', live⟩ := ih (sound.apply opened (known write (by simp)) fresh) (by simpa)
      (fun other inside => (known other (by simp [inside])).mono (by simp) (by simp))
      ((middle.map Write.mark).nodup_iff.mpr nodup)
    exact ⟨sound', live.trans middle⟩

/-- What new writes add to the tables is theirs, and nothing of what was there goes. -/
theorem mem_foldl_apply {owner : SessionId} {writes : List Write} {memory : Memory}
    (nodup : ((writes ++ memory.live).map Write.mark).Nodup) :
    (∀ entry, entry ∈ (writes.foldl (Memory.apply owner) memory).providers ↔
      entry ∈ memory.providers ∨ Write.provider entry.1 ∈ writes ∧ entry.2 = owner) ∧
    (∀ entry, entry ∈ (writes.foldl (Memory.apply owner) memory).sublayers ↔
      entry ∈ memory.sublayers ∨ Write.sublayer entry.1 entry.2 ∈ writes) ∧
    (∀ stored, stored ∈ (writes.foldl (Memory.apply owner) memory).filters ↔
      stored ∈ memory.filters ∨ Write.filter stored ∈ writes) := by
  induction writes generalizing memory with
  | nil => simp
  | cons write rest ih =>
    obtain ⟨fresh, middle⟩ := fresh_of_nodup owner nodup
    obtain ⟨providers, sublayers, filters⟩ :=
      ih ((middle.map Write.mark).nodup_iff.mpr nodup)
    refine ⟨fun entry => ?_, fun entry => ?_, fun stored => ?_⟩
    · rw [List.foldl_cons, providers entry, List.mem_cons]
      cases write with
      | provider key =>
        simp only [Memory.apply, filter_providers_of_fresh fresh, List.mem_cons,
          Write.provider.injEq, Prod.ext_iff]
        grind
      | sublayer key provider => simp [Memory.apply]
      | filter stored => simp [Memory.apply]
    · rw [List.foldl_cons, sublayers entry, List.mem_cons]
      cases write with
      | provider key => simp [Memory.apply]
      | sublayer key provider =>
        simp only [Memory.apply, filter_sublayers_of_fresh fresh, List.mem_cons,
          Write.sublayer.injEq, Prod.ext_iff]
        grind
      | filter stored => simp [Memory.apply]
    · rw [List.foldl_cons, filters stored, List.mem_cons]
      cases write with
      | provider key => simp [Memory.apply]
      | sublayer key provider => simp [Memory.apply]
      | filter other =>
        have inserted := Stored.insert_perm (id_ne_of_fresh fresh)
        simp only [Memory.apply, inserted.mem_iff, List.mem_cons, Write.filter.injEq]
        grind

/-! ## What is left when a session ends -/

theorem gone_iff {memory : Memory} {id : SessionId} {key : Key} :
    (memory.providers.any fun entry => entry.1 = key && entry.2 = id) = true ↔
      (key, id) ∈ memory.providers := by
  simp only [List.any_eq_true, Bool.and_eq_true, decide_eq_true_eq, Prod.exists]
  exact ⟨fun ⟨_, _, member, rfl, rfl⟩ => member, fun member => ⟨key, id, member, rfl, rfl⟩⟩

theorem mem_providers_purge {memory : Memory} {id : SessionId} {entry : Key × SessionId} :
    entry ∈ (memory.purge id).providers ↔
      entry ∈ memory.providers ∧ (entry.1, id) ∉ memory.providers := by
  simp only [purge, List.mem_filter, Bool.not_eq_true', ← Bool.not_eq_true, gone_iff]

theorem mem_sublayers_purge {memory : Memory} {id : SessionId} {entry : Key × Key} :
    entry ∈ (memory.purge id).sublayers ↔
      entry ∈ memory.sublayers ∧ (entry.2, id) ∉ memory.providers := by
  simp only [purge, List.mem_filter, Bool.not_eq_true', ← Bool.not_eq_true, gone_iff]

theorem mem_filters_purge {memory : Memory} {id : SessionId} {stored : Stored} :
    stored ∈ (memory.purge id).filters ↔
      stored ∈ memory.filters ∧ (stored.ns.provider, id) ∉ memory.providers := by
  simp only [purge, List.mem_filter, Bool.not_eq_true', ← Bool.not_eq_true, gone_iff]

/-- Nothing appears when a session ends. -/
theorem live_purge (memory : Memory) (id : SessionId) :
    (memory.purge id).live.Sublist memory.live := by
  refine List.Sublist.append (List.Sublist.append (List.Sublist.append ?_ ?_) ?_) ?_
  · exact List.filter_sublist.map _
  · exact List.filter_sublist.map _
  · exact List.filter_sublist.map _
  · simp only [purge]
    induction memory.sessions with
    | nil => exact List.Sublist.refl _
    | cons session rest ih =>
      rw [List.filter_cons]
      split
      · simpa using ih
      · exact ih.trans (by simp)

theorem Sound.purge {memory : Memory} (sound : memory.Sound) (id : SessionId) :
    (memory.purge id).Sound := by
  have less := live_purge memory id
  constructor
  · exact sound.numbers_nodup.sublist (List.filter_sublist.map _)
  · exact fun session member => sound.number_le session (List.mem_filter.mp member).1
  · exact fun entry member => sound.owner_le entry (List.mem_filter.mp member).1
  · exact fun write member => (sound.known write (less.subset member)).mono (Nat.le_refl _)
      (Nat.le_refl _)
  · exact sound.marks_nodup.sublist (less.map _)
  · exact sound.filters_sorted.sublist List.filter_sublist
  · exact fun session member => sound.staged_sorted session (List.mem_filter.mp member).1

end Memory

end TrafficPolicy
