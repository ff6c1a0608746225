import TrafficPolicy.Proofs.Engine.Effects
import TrafficPolicy.Proofs.Engine.Tenancy

/-!
# One user among others

One user of an engine in memory has one session at a time and registers nothing but what hangs
under providers of its own.  The others may do with their sessions what they like, also under the
namespace of the first.

`Memory.Beside others theirs number` says how the two can be told apart, if `others` are the
sessions of the others and `theirs` the writes that they were granted: what is not theirs hangs
under a provider of the session `number`.  When that session ends, all that is left is theirs.
-/

namespace TrafficPolicy

namespace Memory

/-- All that the engine holds belongs to others, or to the session of this number. -/
structure Beside (others : List SessionId) (theirs : List (SessionId × Write))
    (number : Option SessionId) (memory : Memory) : Prop where
  sound : memory.Sound
  others_le : ∀ id ∈ others, id ≤ memory.lastSession
  number_apart : ∀ id, number = some id → id ∉ others ∧ id ≤ memory.lastSession
  session_of : ∀ session ∈ memory.sessions, session.id ∈ others ∨ number = some session.id
  staged_theirs : ∀ session ∈ memory.sessions, session.id ∈ others →
    ∀ write ∈ session.writes, (session.id, write) ∈ theirs
  provider_of : ∀ entry ∈ memory.providers,
    entry.2 ∈ others ∨ number = some entry.2 ∧ memory.Opened entry.2
  registered_of : ∀ write ∈ memory.registered,
    (∃ id ∈ others, (id, write) ∈ theirs) ∨
      ∃ id, number = some id ∧ (write.root, id) ∈ memory.providers

section Company

variable {others : List SessionId} {theirs : List (SessionId × Write)} {number : Option SessionId}
  {memory next : Memory}

theorem beside_empty : Beside [] [] none ({} : Memory) := by
  constructor <;> simp [registered, sound_empty]

theorem Beside.rearmed (beside : Beside others theirs number memory)
    (armed : memory.Rearmed next) : Beside others theirs number next := by
  obtain ⟨k, failing, rfl⟩ := armed
  exact { beside with
    sound := beside.sound.grow rfl rfl rfl rfl (Nat.le_refl _) (Nat.le_refl _) (Nat.le_refl _) }

/-- A number that no other has may be that of the user. -/
theorem Beside.hold (beside : Beside others theirs none memory) {id : SessionId}
    (apart : id ∉ others) (drawn : id ≤ memory.lastSession) :
    Beside others theirs (some id) memory :=
  { beside with
    number_apart := fun _ same => Option.some.inj same ▸ ⟨apart, drawn⟩
    session_of := fun session member => (beside.session_of session member).imp_right nofun
    provider_of := fun entry member => (beside.provider_of entry member).imp_right nofun
    registered_of := fun write member => (beside.registered_of write member).imp_right nofun }

/-- Numbers that were given out stay so. -/
theorem Beside.grow (beside : Beside others theirs number memory)
    {granted : List (SessionId × Write)} (sound : next.Sound) (grows : memory.Grows next)
    (session_of : ∀ session ∈ next.sessions, session.id ∈ others ∨ number = some session.id)
    (staged_theirs : ∀ session ∈ next.sessions, session.id ∈ others →
      ∀ write ∈ session.writes, (session.id, write) ∈ granted)
    (provider_of : ∀ entry ∈ next.providers,
      entry.2 ∈ others ∨ number = some entry.2 ∧ next.Opened entry.2)
    (registered_of : ∀ write ∈ next.registered, (∃ id ∈ others, (id, write) ∈ granted) ∨
      ∃ id, number = some id ∧ (write.root, id) ∈ next.providers) :
    Beside others granted number next where
  sound := sound
  others_le id member := Nat.le_trans (beside.others_le id member) grows.lastSession
  number_apart id own :=
    ⟨(beside.number_apart id own).1, Nat.le_trans (beside.number_apart id own).2 grows.lastSession⟩
  session_of := session_of
  staged_theirs := staged_theirs
  provider_of := provider_of
  registered_of := registered_of

/-! ## What the others do -/

theorem Beside.openSession (beside : Beside others theirs number memory) :
    Beside ((memory.lastSession + 1) :: others) theirs number memory.openSession.2 where
  sound := beside.sound.openSession
  others_le id member := by
    rcases List.mem_cons.mp member with rfl | old
    · exact Nat.le_refl _
    · exact Nat.le_succ_of_le (beside.others_le id old)
  number_apart id own := by
    obtain ⟨apart, drawn⟩ := beside.number_apart id own
    refine ⟨fun member => ?_, Nat.le_succ_of_le drawn⟩
    rcases List.mem_cons.mp member with rfl | old
    · exact Nat.not_succ_le_self _ drawn
    · exact apart old
  session_of session member := by
    rcases List.mem_append.mp member with old | new
    · exact (beside.session_of session old).imp_left (List.mem_cons_of_mem _)
    · rw [List.mem_singleton.mp new]
      exact Or.inl List.mem_cons_self
  staged_theirs session member other write waits := by
    rcases List.mem_append.mp member with old | new
    · refine beside.staged_theirs session old ?_ write waits
      refine (List.mem_cons.mp other).resolve_left fun same => ?_
      exact Nat.not_succ_le_self _ (same ▸ beside.sound.number_le session old)
    · rw [List.mem_singleton.mp new] at waits
      cases waits
  provider_of entry member := by
    refine (beside.provider_of entry member).imp (List.mem_cons_of_mem _) fun ⟨own, opened⟩ => ?_
    obtain ⟨session, inside, same⟩ := opened
    exact ⟨own, session, List.mem_append_left _ inside, same⟩
  registered_of write member := by
    refine (beside.registered_of write member).imp_left fun ⟨id, other, granted⟩ => ?_
    exact ⟨id, List.mem_cons_of_mem _ other, granted⟩

/-- Writes of another session that reach the tables or wait are theirs. -/
theorem Beside.keep (beside : Beside others theirs number memory) {session : Session}
    (member : session ∈ memory.sessions) (other : session.id ∈ others) {granted : Option Write}
    (sound : next.Sound) (grows : memory.Grows next) {staged : Option (List Write)}
    {moved : List Write} (waiting : Carried session granted (staged.getD []))
    (moving : Carried session granted moved)
    (sessions : next.sessions = (memory.setStaged session.id staged).sessions)
    (registered : next.registered.Perm (moved ++ memory.registered))
    (providers : ∀ entry, entry ∈ next.providers ↔
      entry ∈ memory.providers ∨ Write.provider entry.1 ∈ moved ∧ entry.2 = session.id) :
    Beside others (theirs ++ (granted.map (session.id, ·)).toList) number next := by
  have held : ∀ {list}, Carried session granted list → ∀ write ∈ list, (session.id, write) ∈
      theirs ++ (granted.map (session.id, ·)).toList := fun carried write inside =>
    carried.mem_granted (beside.staged_theirs session member other) inside
  refine beside.grow sound grows (fun last inside => ?_) (fun last inside theirs write waits => ?_)
    (fun entry inside => ?_) fun write inside => ?_
  · rcases mem_setStaged (sessions ▸ inside) with rfl | ⟨old, _⟩
    · exact Or.inl other
    · exact beside.session_of last old
  · rcases mem_setStaged (sessions ▸ inside) with rfl | ⟨old, _⟩
    · exact held waiting write waits
    · exact List.mem_append_left _ (beside.staged_theirs last old theirs write waits)
  · rcases (providers entry).mp inside with old | ⟨_, own⟩
    · exact (beside.provider_of entry old).imp_right fun ⟨own, opened⟩ =>
        ⟨own, (opened_of_setStaged sessions).mpr opened⟩
    · exact Or.inl (own ▸ other)
  · rcases List.mem_append.mp (registered.mem_iff.mp inside) with moves | old
    · exact Or.inl ⟨session.id, other, held moving write moves⟩
    · refine (beside.registered_of write old).imp
        (fun ⟨id, there, granted⟩ => ⟨id, there, List.mem_append_left _ granted⟩)
        fun ⟨id, own, root⟩ => ⟨id, own, (providers _).mpr (Or.inl root)⟩

/-- When another session ends, it takes nothing away from the user. -/
theorem Beside.lose (beside : Beside others theirs number memory) {id : SessionId}
    (other : id ∈ others) (sound : next.Sound) (grows : memory.Grows next)
    (sessions : next.sessions = memory.sessions.filter (·.id ≠ id))
    (registered : ∀ write, write ∈ next.registered ↔
      write ∈ memory.registered ∧ (write.root, id) ∉ memory.providers)
    (providers : ∀ entry, entry ∈ next.providers ↔
      entry ∈ memory.providers ∧ (entry.1, id) ∉ memory.providers) :
    Beside others theirs number next := by
  have kept : ∀ session ∈ next.sessions, session ∈ memory.sessions := fun session inside =>
    (List.mem_filter.mp (sessions ▸ inside)).1
  refine beside.grow sound grows
    (fun session inside => beside.session_of session (kept session inside))
    (fun session inside => beside.staged_theirs session (kept session inside))
    (fun entry inside => ?_) fun write inside => ?_
  · have before := ((providers entry).mp inside).1
    refine (beside.provider_of entry before).imp_right fun ⟨own, opened⟩ => ⟨own, ?_⟩
    refine (opened_of_filter sessions).mpr ⟨opened, fun same => ?_⟩
    exact (beside.number_apart _ own).1 (same ▸ other)
  · obtain ⟨before, apart⟩ := (registered write).mp inside
    exact (beside.registered_of write before).imp_right fun ⟨owner, own, root⟩ =>
      ⟨owner, own, (providers _).mpr ⟨root, apart⟩⟩

/-- Whatever another user does, it gets no more than it is granted, and the user keeps what it
has. -/
theorem Beside.call (beside : Beside others theirs number memory) {id : SessionId}
    (other : id ∈ others) (call : Call) :
    Beside others (theirs ++ ((call.granted (Memory.call id call memory).1).map (id, ·)).toList)
      number (Memory.call id call memory).2 := by
  cases found : memory.session? id with
  | none =>
    obtain ⟨nothing, same⟩ := call_of_not_opened (session?_eq_none_iff_not_opened.mp found) call
    rw [nothing, same]
    simpa using beside
  | some session =>
    obtain ⟨member, rfl⟩ := session?_eq_some found
    have sound := beside.sound.call session.id call
    have grows := grows_call memory session.id call
    have effect := beside.sound.call_effect found call
    generalize call.granted (Memory.call session.id call memory).1 = granted at effect ⊢
    generalize (Memory.call session.id call memory).2 = next at sound grows effect ⊢
    cases effect with
    | keep staged moved waiting moving landed sessions registered providers =>
      exact beside.keep member other sound grows waiting (.of_moving moving) sessions registered
        providers
    | close sessions registered providers =>
      simpa using beside.lose other sound grows sessions registered providers

/-! ## What the user does -/

/-- When the session of the user ends, all that is left is theirs. -/
theorem Beside.close {id : SessionId} (beside : Beside others theirs (some id) memory) :
    Beside others theirs none (Memory.call id .close memory).2 := by
  have apart := (beside.number_apart id rfl).1
  by_cases opened : memory.Opened id
  · have sound := beside.sound.call id .close
    rw [call_close opened] at sound ⊢
    exact {
      sound := sound
      others_le := beside.others_le
      number_apart := nofun
      session_of := fun session member => by
        obtain ⟨before, differs⟩ := List.mem_filter.mp member
        refine (beside.session_of session before).imp_right fun own => ?_
        exact absurd (Option.some.inj own).symm (of_decide_eq_true differs)
      staged_theirs := fun session member =>
        beside.staged_theirs session (List.mem_filter.mp member).1
      provider_of := fun entry member => by
        obtain ⟨before, stays⟩ := mem_providers_purge.mp member
        refine (beside.provider_of entry before).imp_right fun ⟨own, _⟩ => ?_
        exact absurd (Option.some.inj own ▸ before) stays
      registered_of := fun write member => by
        obtain ⟨before, stays⟩ := mem_registered_purge.mp member
        refine (beside.registered_of write before).imp_right fun ⟨owner, own, root⟩ => ?_
        exact absurd (Option.some.inj own ▸ root) stays }
  · rw [(call_of_not_opened opened .close).2]
    exact { beside with
      number_apart := nofun
      session_of := fun session member => by
        refine (beside.session_of session member).imp_right fun own => ?_
        exact absurd ⟨session, member, (Option.some.inj own).symm⟩ opened
      provider_of := fun entry member => by
        refine (beside.provider_of entry member).imp_right fun ⟨own, here⟩ => ?_
        exact absurd (Option.some.inj own ▸ here) opened
      registered_of := fun write member => by
        refine (beside.registered_of write member).imp_right fun ⟨owner, own, root⟩ => ?_
        rcases beside.provider_of _ root with theirs | ⟨_, here⟩
        · exact absurd (Option.some.inj own ▸ theirs) apart
        · exact absurd (Option.some.inj own ▸ here) opened }

/-- Without a session of the user, all that the engine holds is theirs. -/
theorem Beside.all_theirs (beside : Beside others theirs none memory) :
    (∀ session ∈ memory.sessions, session.id ∈ others) ∧
      ∀ write ∈ memory.registered, ∃ id ∈ others, (id, write) ∈ theirs :=
  ⟨fun session member => (beside.session_of session member).resolve_right nofun,
    fun write member => (beside.registered_of write member).resolve_right nofun⟩

/-- What stands in the tables beside a user that comes anew was there before, or hangs under a
provider of that user. -/
theorem Hosts.registered_of {tenant : Tenant} (hosts : Hosts memory [tenant] next) {write : Write}
    (member : write ∈ next.registered) : write ∈ memory.registered ∨
      ∃ id, tenant.number? = some id ∧ (write.root, id) ∈ next.providers := by
  have orderly := hosts.orderly tenant List.mem_cons_self
  have owner : ∀ {key id}, (key, id) ∈ tenant.providers →
      tenant.number? = some id ∧ (key, id) ∈ next.providers := fun place =>
    ⟨(Tenant.providers_of_mem place).1,
      (hosts.providers _).mpr (Or.inr ⟨tenant, List.mem_cons_self, place⟩)⟩
  cases write with
  | provider key =>
    obtain ⟨id, present⟩ := provider_mem_registered.mp member
    rcases (hosts.providers _).mp present with before | ⟨other, place, kept⟩
    · exact Or.inl (provider_registered before)
    · exact Or.inr ⟨id, owner (List.mem_singleton.mp place ▸ kept)⟩
  | sublayer key above =>
    rcases (hosts.sublayers _).mp (sublayer_mem_registered.mp member) with
      before | ⟨other, place, kept⟩
    · exact Or.inl (sublayer_registered before)
    · obtain ⟨id, root⟩ :=
        (Tenant.provider_of_mem orderly).1 _ (List.mem_singleton.mp place ▸ kept)
      exact Or.inr ⟨id, owner root⟩
  | filter stored =>
    rcases (hosts.filters _).mp (filter_mem_registered.mp member) with
      before | ⟨other, place, kept⟩
    · exact Or.inl (filter_registered before)
    · obtain ⟨id, root⟩ :=
        (Tenant.provider_of_mem orderly).2 _ (List.mem_singleton.mp place ▸ kept)
      exact Or.inr ⟨id, owner root⟩

/-- What a user has that comes anew is not theirs. -/
theorem Beside.of_hosts (beside : Beside others theirs none memory) {tenant : Tenant}
    (hosts : Hosts memory [tenant] next) : Beside others theirs tenant.number? next := by
  have new := hosts.number_new tenant List.mem_cons_self
  exact {
    sound := hosts.sound
    others_le := fun id member => Nat.le_trans (beside.others_le id member) hosts.numbers_le
    number_apart := fun id own =>
      ⟨fun member => Nat.not_le.mpr (new id own).1 (beside.others_le id member), (new id own).2⟩
    session_of := fun session member => by
      rcases hosts.owned session member with before | ⟨other, place, own⟩
      · exact (beside.session_of session before).imp_right nofun
      · exact Or.inr (List.mem_singleton.mp place ▸ own)
    staged_theirs := fun session member other write waits => by
      rcases hosts.owned session member with before | ⟨tenant, place, own⟩
      · exact beside.staged_theirs session before other write waits
      · have late := (hosts.number_new tenant place _ own).1
        exact absurd (beside.others_le _ other) (Nat.not_le.mpr late)
    provider_of := fun entry member => by
      rcases (hosts.providers entry).mp member with before | ⟨other, place, kept⟩
      · exact (beside.provider_of entry before).imp_right nofun
      · rw [List.mem_singleton] at place
        subst place
        cases other with
        | settled id ns stored =>
          rw [List.mem_singleton.mp kept]
          exact Or.inr ⟨rfl, opened_of_session? (hosts.session_tenant _ List.mem_cons_self _ rfl)⟩
        | absent => cases kept
        | loose id => cases kept
        | staging id staged => cases kept
    registered_of := fun write member =>
      (hosts.registered_of member).imp_left (beside.all_theirs.2 write) }

end Company

end Memory

end TrafficPolicy
