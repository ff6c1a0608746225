import TrafficPolicy.Proofs.Engine.Tenancy

/-!
# Calls of a tenant

What each call on a session does to the tenant whose session it is.  While a transaction is open
nothing of the tenant is in the tables; the commit puts all of it there or nothing, and once the
session is closed nothing is left.
-/

namespace TrafficPolicy

namespace Memory

section Calls

variable {frame memory next : Memory} {tenants others : List Tenant}

theorem call_of_session? {id : SessionId} {session : Session}
    (found : memory.session? id = some session) (call : Call) :
    Memory.call id call memory =
      ({ memory with calls := memory.calls + 1 } : Memory).perform session call := by
  rw [Memory.call, found]

/-- Adding a filter under a namespace that is there fails only where it was asked to. -/
theorem addFilter_of_known {session : Session} {ns : Namespace}
    (known : memory.sublayerKnown session ns = true) (filter : Filter) :
    memory.addFilter session ns filter =
        (.error .injectedAddFilter,
          { memory with addFilterCalls := memory.addFilterCalls + 1 }) ∨
      memory.addFilter session ns filter =
        (.ok (memory.lastFilter + 1),
          ({ memory with
            addFilterCalls := memory.addFilterCalls + 1
            lastFilter := memory.lastFilter + 1 } : Memory).write session
              (.filter ⟨memory.lastFilter + 1, ns, filter⟩)) := by
  have accepted : ({ memory with
      addFilterCalls := memory.addFilterCalls + 1 } : Memory).sublayerKnown session ns = true :=
    known
  unfold Memory.addFilter
  by_cases injected : memory.failAddFilterAt = some (memory.addFilterCalls + 1)
  · exact Or.inl (if_pos injected)
  · refine Or.inr ((if_neg injected).trans (if_neg ?_))
    rw [accepted]
    decide

theorem Hosts.openSession (hosts : Hosts frame (.absent :: others) memory) :
    ∃ number next, memory.openSession = (.ok number, next) ∧
      Hosts frame (.staging number none :: others) next := by
  have sound := hosts.sound.openSession
  have hosts := hosts_absent.mp hosts
  let number := memory.lastSession + 1
  have unused : ∀ session ∈ memory.sessions, session.id ≠ number := fun session member =>
    Nat.ne_of_lt (Nat.lt_succ_of_le (hosts.sound.number_le session member))
  have lookup : ∀ id, memory.openSession.2.session? id =
      if id = number then some ⟨number, none⟩ else memory.session? id := by
    intro id
    by_cases same : id = number
    · have none := session?_eq_none_iff.mpr unused
      rw [session?] at none
      simp [session?, Memory.openSession, same, none, number]
    · have differs : ¬ memory.lastSession + 1 = id := fun eq => same eq.symm
      simp [session?, Memory.openSession, same, differs]
  refine ⟨number, memory.openSession.2, rfl, ?_⟩
  exact {
    frame_sound := hosts.frame_sound
    sound := sound
    session_frame := fun session member => by
      have below := Nat.le_trans (hosts.frame_sound.number_le session member) hosts.numbers_le
      rw [lookup, if_neg (Nat.ne_of_lt (Nat.lt_succ_of_le below))]
      exact hosts.session_frame session member
    session_tenant := by
      intro tenant member session is
      rcases List.mem_cons.mp member with rfl | inside
      · cases is
        rw [lookup, if_pos rfl]
      · have bounds := hosts.number_new tenant inside _ (Tenant.number?_of_session? is)
        rw [lookup, if_neg (Nat.ne_of_lt (Nat.lt_succ_of_le bounds.2))]
        exact hosts.session_tenant tenant inside session is
    owned := by
      intro session member
      rcases List.mem_append.mp member with inside | place
      · rcases hosts.owned session inside with old | ⟨tenant, place, own⟩
        · exact Or.inl old
        · exact Or.inr ⟨tenant, List.mem_cons_of_mem _ place, own⟩
      · exact Or.inr ⟨_, List.mem_cons_self, by rw [List.mem_singleton.mp place]; rfl⟩
    numbers_nodup := by
      refine List.nodup_cons.mpr ⟨fun inside => ?_, hosts.numbers_nodup⟩
      obtain ⟨tenant, member, own⟩ := List.mem_filterMap.mp inside
      exact Nat.not_succ_le_self _ (hosts.number_new tenant member _ own).2
    number_new := by
      intro tenant member id own
      rcases List.mem_cons.mp member with rfl | inside
      · cases own
        exact ⟨Nat.lt_succ_of_le hosts.numbers_le, Nat.le_refl _⟩
      · have bounds := hosts.number_new tenant inside id own
        exact ⟨bounds.1, Nat.le_succ_of_le bounds.2⟩
    numbers_le := Nat.le_succ_of_le hosts.numbers_le
    keys_le := hosts.keys_le
    names_new := by simpa [Tenant.Names] using hosts.names_new
    orderly := by simpa [Tenant.Orderly] using hosts.orderly
    providers := by simpa [Tenant.providers, Memory.openSession] using hosts.providers
    sublayers := by simpa [Tenant.sublayers, Memory.openSession] using hosts.sublayers
    filters := by simpa [Tenant.filters, Memory.openSession] using hosts.filters }

section Staging

variable {number : SessionId} {staged : Option (List Write)} {waiting : List Write}

theorem Hosts.session?_staging (hosts : Hosts frame (.staging number staged :: others) memory) :
    memory.session? number = some ⟨number, staged⟩ :=
  hosts.session_tenant _ List.mem_cons_self ⟨number, staged⟩ rfl

theorem Hosts.begin (hosts : Hosts frame (.staging number none :: others) memory) :
    ∃ next, Memory.call number .begin memory = (.ok (), next) ∧
      Hosts frame (.staging number (some []) :: others) next := by
  have sound := hosts.sound.call number .begin
  rw [call_of_session? hosts.session?_staging] at sound ⊢
  refine ⟨_, rfl, hosts.restage rfl ⟨rfl, rfl, rfl⟩ hosts.session?_staging sound rfl
    ⟨rfl, rfl, rfl⟩ rfl (Nat.le_refl _) ?_⟩
  exact fun _ member => absurd member List.not_mem_nil

theorem Hosts.addProvider (hosts : Hosts frame (.staging number (some waiting) :: others) memory)
    (name description : String) :
    ∃ key next, Memory.call number (.addProvider name description) memory = (.ok key, next) ∧
      Hosts frame (.staging number (some (waiting ++ [.provider key])) :: others) next := by
  have sound := hosts.sound.call number (.addProvider name description)
  rw [call_of_session? hosts.session?_staging] at sound ⊢
  refine ⟨_, _, rfl, hosts.restage rfl ⟨rfl, rfl, rfl⟩ hosts.session?_staging sound rfl
    ⟨rfl, rfl, rfl⟩ rfl (Nat.le_succ _) ?_⟩
  intro key member
  rcases List.mem_append.mp member with old | new
  · exact hosts.names_new _ List.mem_cons_self key old
  · rw [Write.provider.inj (List.mem_singleton.mp new)]
    exact fun drawn => memory.not_drawn_next (drawn.mono hosts.keys_le)

theorem Hosts.addSublayer (hosts : Hosts frame (.staging number (some waiting) :: others) memory)
    {provider : Key} (known : Write.provider provider ∈ waiting) (name description : String) :
    ∃ key next,
      Memory.call number (.addSublayer provider name description) memory = (.ok key, next) ∧
      Hosts frame (.staging number (some (waiting ++ [.sublayer key provider])) :: others)
        next := by
  have sound := hosts.sound.call number (.addSublayer provider name description)
  rw [call_of_session? hosts.session?_staging] at sound ⊢
  have accepted : ({ memory with calls := memory.calls + 1 } : Memory).providerKnown
      ⟨number, some waiting⟩ provider = true := by simp [providerKnown, known]
  rw [perform, if_pos accepted] at sound ⊢
  refine ⟨_, _, rfl, hosts.restage rfl ⟨rfl, rfl, rfl⟩ hosts.session?_staging sound rfl
    ⟨rfl, rfl, rfl⟩ rfl (Nat.le_succ _) ?_⟩
  intro key member
  rcases List.mem_append.mp member with old | new
  · exact hosts.names_new _ List.mem_cons_self key old
  · cases List.mem_singleton.mp new

theorem Hosts.addFilter (hosts : Hosts frame (.staging number (some waiting) :: others) memory)
    {ns : Namespace} (known : Write.sublayer ns.sublayer ns.provider ∈ waiting)
    (filter : Filter) :
    (∃ error next, Memory.call number (.addFilter ns filter) memory = (.error error, next) ∧
      Hosts frame (.staging number (some waiting) :: others) next) ∨
    ∃ id next, Memory.call number (.addFilter ns filter) memory = (.ok id, next) ∧
      Hosts frame (.staging number (some (waiting ++ [.filter ⟨id, ns, filter⟩])) :: others)
        next := by
  have sound := hosts.sound.call number (.addFilter ns filter)
  rw [call_of_session? hosts.session?_staging] at sound ⊢
  have accepted : ({ memory with calls := memory.calls + 1 } : Memory).sublayerKnown
      ⟨number, some waiting⟩ ns = true := by simp [sublayerKnown, known]
  rw [perform] at sound ⊢
  rcases addFilter_of_known accepted filter with refused | added
  · rw [refused] at sound ⊢
    exact Or.inl ⟨_, _, rfl,
      hosts.grow sound rfl ⟨rfl, rfl, rfl⟩ (Nat.le_refl _) (Nat.le_refl _)⟩
  · rw [added] at sound ⊢
    refine Or.inr ⟨_, _, rfl,
      hosts.restage rfl ⟨rfl, rfl, rfl⟩ hosts.session?_staging sound rfl ⟨rfl, rfl, rfl⟩ rfl
        (Nat.le_refl _) fun key member => ?_⟩
    rcases List.mem_append.mp member with old | new
    · exact hosts.names_new _ List.mem_cons_self key old
    · cases List.mem_singleton.mp new

/-- A commit puts the whole transaction into the tables, or nothing of it. -/
theorem Hosts.commit {ns : Namespace} {stored : List Stored}
    (hosts : Hosts frame (.staging number (some (ns.writes stored)) :: others) memory)
    (under : ∀ filter ∈ stored, filter.ns = ns) :
    (∃ error next, Memory.call number .commit memory = (.error error, next) ∧
      Hosts frame (.staging number none :: others) next) ∨
    ∃ next, Memory.call number .commit memory = (.ok (), next) ∧
      Hosts frame (.settled number ns stored :: others) next := by
  have found := hosts.session?_staging
  have sound := hosts.sound.call number .commit
  let counted : Memory := { memory with calls := memory.calls + 1 }
  have sound' : counted.Sound :=
    hosts.sound.grow rfl rfl rfl rfl (Nat.le_refl _) (Nat.le_refl _) (Nat.le_refl _)
  have unstaged : (counted.setStaged number none).Sound :=
    sound'.setStaged_of_sublist found (List.nil_sublist _)
  have ended : Hosts frame (.staging number none :: others) (counted.setStaged number none) := by
    refine @Hosts.restage _ _ _ _ _ ⟨number, some (ns.writes stored)⟩ none hosts rfl
      ⟨rfl, rfl, rfl⟩ found unstaged rfl ⟨rfl, rfl, rfl⟩ rfl (Nat.le_refl _) ?_
    exact fun _ member => absurd member List.not_mem_nil
  rw [call_of_session? found] at sound ⊢
  by_cases failing : memory.failCommit = true
  · exact Or.inl ⟨_, _, if_pos failing, ended⟩
  · have done : counted.perform ⟨number, some (ns.writes stored)⟩ .commit =
        (.ok (), (ns.writes stored).foldl (Memory.apply number) (counted.setStaged number none)) :=
      if_neg failing
    rw [done] at sound ⊢
    have nodup : ((ns.writes stored ++ (counted.setStaged number none).live).map
        Write.mark).Nodup := sound'.nodup_unstaged found
    obtain ⟨providers, sublayers, filters⟩ := @mem_foldl_apply number _ _ nodup
    have sorted := hosts.sound.staged_sorted _ (session?_eq_some found).1
    rw [show Session.writes ⟨number, some (ns.writes stored)⟩ = ns.writes stored from rfl,
      Namespace.filterMap_writes] at sorted
    refine Or.inr ⟨_, rfl, ended.settle sound (by simp) (by simp) (by simp) ?_ under sorted
      (fun entry => ?_) (fun entry => ?_) (fun filter => ?_)⟩
    · exact hosts.names_new _ List.mem_cons_self _ (Namespace.mem_writes.mpr (Or.inl rfl))
    · rw [providers entry]
      simp [Namespace.mem_writes, Prod.ext_iff]
    · rw [sublayers entry]
      simp [Namespace.mem_writes, Prod.ext_iff]
    · rw [filters filter]
      simp [Namespace.mem_writes]

end Staging

/-! ## The end of a session -/

/-- The providers that go with a tenant's session are the tenant's. -/
theorem Hosts.mem_providers_iff {tenant : Tenant} {number : SessionId}
    (hosts : Hosts frame (tenant :: others) memory) (own : tenant.number? = some number)
    (key : Key) : (key, number) ∈ memory.providers ↔ (key, number) ∈ tenant.providers := by
  rw [hosts.providers]
  constructor
  · rintro (old | ⟨other, member, place⟩)
    · have bounds := hosts.number_new _ List.mem_cons_self number own
      exact absurd (hosts.frame_sound.owner_le _ old) (Nat.not_le.mpr bounds.1)
    · rcases List.mem_cons.mp member with rfl | inside
      · exact place
      · exact absurd (Tenant.providers_of_mem place).1 (hosts.number_apart own other inside)
  · exact fun place => Or.inr ⟨tenant, List.mem_cons_self, place⟩

/-- What hangs under the provider of another tenant stays when the session ends. -/
theorem Hosts.kept_of_other {tenant other : Tenant} {number owner : SessionId} {key : Key}
    (hosts : Hosts frame (tenant :: others) memory) (own : tenant.number? = some number)
    (inside : other ∈ others) (place : (key, owner) ∈ other.providers) :
    (key, number) ∉ memory.providers := by
  intro mine
  have theirs := (hosts.providers (key, owner)).mpr
    (Or.inr ⟨other, List.mem_cons_of_mem _ inside, place⟩)
  have same : (key, number) = (key, owner) :=
    List.inj_on_of_nodup_map hosts.sound.providers_nodup mine theirs rfl
  have eq := (Tenant.providers_of_mem place).1
  rw [← (Prod.mk.inj same).2] at eq
  exact hosts.number_apart own other inside eq

/-- What was there before stays when the session ends. -/
theorem Hosts.kept_of_drawn {tenant : Tenant} {number : SessionId} {key : Key}
    (hosts : Hosts frame (tenant :: others) memory) (own : tenant.number? = some number)
    (drawn : frame.Drawn key) : (key, number) ∉ memory.providers := by
  rw [hosts.mem_providers_iff own]
  intro mine
  exact hosts.names_new _ List.mem_cons_self key (Tenant.providers_of_mem mine).2 drawn

/-- Of what hangs under providers, exactly what is not the tenant's is left when its session
ends. -/
theorem Hosts.left_iff {tenant : Tenant} {number : SessionId} {key : Key} {old : Prop}
    {keeps : Tenant → Prop} (hosts : Hosts frame (tenant :: others) memory)
    (own : tenant.number? = some number) (drawn : old → frame.Drawn key)
    (under : ∀ other ∈ tenant :: others, keeps other →
      ∃ owner, (key, owner) ∈ other.providers) :
    ((old ∨ ∃ other ∈ tenant :: others, keeps other) ∧ (key, number) ∉ memory.providers) ↔
      old ∨ ∃ other ∈ others, keeps other := by
  constructor
  · rintro ⟨present | ⟨other, member, kept⟩, stays⟩
    · exact Or.inl present
    · rcases List.mem_cons.mp member with rfl | inside
      · obtain ⟨owner, place⟩ := under other member kept
        have mine : owner = number := by
          have eq := (Tenant.providers_of_mem place).1
          rw [own] at eq
          exact (Option.some.inj eq).symm
        exact absurd ((hosts.mem_providers_iff own key).mpr (mine ▸ place)) stays
      · exact Or.inr ⟨other, inside, kept⟩
  · rintro (present | ⟨other, inside, kept⟩)
    · exact ⟨Or.inl present, hosts.kept_of_drawn own (drawn present)⟩
    · have member := List.mem_cons_of_mem tenant inside
      obtain ⟨owner, place⟩ := under other member kept
      exact ⟨Or.inr ⟨other, member, kept⟩, hosts.kept_of_other own inside place⟩

/-- When the session of a tenant ends, the tenant has nothing any more and the others have what
they had. -/
theorem Hosts.purge {tenant : Tenant} {number : SessionId}
    (hosts : Hosts frame (tenant :: others) memory) (own : tenant.number? = some number) :
    Hosts frame (.absent :: others) (memory.purge number) := by
  have drawn := hosts.frame_sound.drawn_of_mem
  refine hosts_absent.mpr {
    frame_sound := hosts.frame_sound
    sound := hosts.sound.purge number
    session_frame := fun session member => by
      have bounds := hosts.number_new _ List.mem_cons_self number own
      have below := hosts.frame_sound.number_le session member
      rw [session?_purge memory (Nat.ne_of_lt (Nat.lt_of_le_of_lt below bounds.1))]
      exact hosts.session_frame session member
    session_tenant := fun other inside session is => by
      have apart : session.id ≠ number := fun same =>
        hosts.number_apart own other inside (same ▸ Tenant.number?_of_session? is)
      rw [session?_purge memory apart]
      exact hosts.session_tenant other (List.mem_cons_of_mem _ inside) session is
    owned := fun session member => by
      obtain ⟨inside, apart⟩ := List.mem_filter.mp member
      rcases hosts.owned session inside with old | ⟨other, place, is⟩
      · exact Or.inl old
      · rcases List.mem_cons.mp place with rfl | place
        · rw [own] at is
          exact absurd (Option.some.inj is).symm (of_decide_eq_true apart)
        · exact Or.inr ⟨other, place, is⟩
    numbers_nodup := (List.nodup_cons.mp (List.filterMap_cons_some own ▸ hosts.numbers_nodup)).2
    number_new := fun other inside => hosts.number_new other (List.mem_cons_of_mem _ inside)
    numbers_le := hosts.numbers_le
    keys_le := hosts.keys_le
    names_new := fun other inside => hosts.names_new other (List.mem_cons_of_mem _ inside)
    orderly := fun other inside => hosts.orderly other (List.mem_cons_of_mem _ inside)
    providers := ?_
    sublayers := ?_
    filters := ?_ }
  · intro entry
    have left := hosts.left_iff own (drawn.1 entry) fun other _ place => ⟨entry.2, place⟩
    rw [← hosts.providers entry] at left
    exact mem_providers_purge.trans left
  · intro entry
    have left := hosts.left_iff own (drawn.2.1 entry) fun other member =>
      (Tenant.provider_of_mem (hosts.orderly other member)).1 entry
    rw [← hosts.sublayers entry] at left
    exact mem_sublayers_purge.trans left
  · intro stored
    have left := hosts.left_iff own (drawn.2.2 stored) fun other member =>
      (Tenant.provider_of_mem (hosts.orderly other member)).2 stored
    rw [← hosts.filters stored] at left
    exact mem_filters_purge.trans left

/-- A number that no session goes by any more can be kept back. -/
theorem Hosts.reserve {number : SessionId} (hosts : Hosts frame others memory)
    (apart : ∀ other ∈ others, other.number? ≠ some number)
    (new : frame.lastSession < number ∧ number ≤ memory.lastSession) :
    Hosts frame (.loose number :: others) memory := by
  have hosts := hosts_absent.mpr hosts
  exact {
    hosts with
    session_tenant := by simpa [Tenant.session?] using hosts.session_tenant
    owned := fun session member => by
      rcases hosts.owned session member with old | ⟨other, inside, is⟩
      · exact Or.inl old
      · rcases List.mem_cons.mp inside with rfl | inside
        · cases is
        · exact Or.inr ⟨other, List.mem_cons_of_mem _ inside, is⟩
    numbers_nodup := by
      refine List.nodup_cons.mpr ⟨fun inside => ?_, hosts.numbers_nodup⟩
      obtain ⟨other, member, is⟩ := List.mem_filterMap.mp inside
      exact apart other member is
    number_new := by simpa [Tenant.number?, new] using hosts.number_new
    names_new := by simpa [Tenant.Names] using hosts.names_new
    orderly := by simpa [Tenant.Orderly] using hosts.orderly
    providers := by simpa [Tenant.providers] using hosts.providers
    sublayers := by simpa [Tenant.sublayers] using hosts.sublayers
    filters := by simpa [Tenant.filters] using hosts.filters }

/-- A tenant whose session is no longer open has nothing any more. -/
theorem Hosts.vanish {number : SessionId} (hosts : Hosts frame (.loose number :: others) memory)
    (closed : memory.session? number = none) : Hosts frame (.absent :: others) memory :=
  { hosts with
    session_tenant := by simpa [Tenant.session?] using hosts.session_tenant
    owned := fun session member => by
      rcases hosts.owned session member with old | ⟨other, inside, is⟩
      · exact Or.inl old
      · rcases List.mem_cons.mp inside with rfl | inside
        · exact absurd (Option.some.inj is).symm (session?_eq_none_iff.mp closed session member)
        · exact Or.inr ⟨other, List.mem_cons_of_mem _ inside, is⟩
    numbers_nodup := (List.nodup_cons.mp hosts.numbers_nodup).2
    number_new := by
      intro other member id is
      rcases List.mem_cons.mp member with rfl | inside
      · cases is
      · exact hosts.number_new other (List.mem_cons_of_mem _ inside) id is
    names_new := by simpa [Tenant.Names] using hosts.names_new
    orderly := by simpa [Tenant.Orderly] using hosts.orderly
    providers := by simpa [Tenant.providers] using hosts.providers
    sublayers := by simpa [Tenant.sublayers] using hosts.sublayers
    filters := by simpa [Tenant.filters] using hosts.filters }

/-- Closing a session never fails, and takes all that its tenant has. -/
theorem Hosts.close {tenant : Tenant} {number : SessionId}
    (hosts : Hosts frame (tenant :: others) memory) (own : tenant.number? = some number) :
    ∃ next, Memory.call number .close memory = (.ok (), next) ∧
      Hosts frame (.loose number :: others) next ∧ Hosts frame (.absent :: others) next := by
  cases found : memory.session? number with
  | none =>
    have loose : Hosts frame (.loose number :: others) memory := by
      cases tenant with
      | absent => cases own
      | loose session => exact Option.some.inj own ▸ hosts
      | staging session staged =>
        have opened := hosts.session_tenant _ List.mem_cons_self _ rfl
        rw [← Option.some.inj own, opened] at found
        cases found
      | settled session ns stored =>
        have opened := hosts.session_tenant _ List.mem_cons_self _ rfl
        rw [← Option.some.inj own, opened] at found
        cases found
    refine ⟨memory, ?_, loose, loose.vanish found⟩
    rw [Memory.call, found]
    rfl
  | some session =>
    have counted : Hosts frame (tenant :: others) { memory with calls := memory.calls + 1 } :=
      hosts.grow
        (hosts.sound.grow rfl rfl rfl rfl (Nat.le_refl _) (Nat.le_refl _) (Nat.le_refl _))
        rfl ⟨rfl, rfl, rfl⟩ (Nat.le_refl _) (Nat.le_refl _)
    have gone := counted.purge own
    refine ⟨_, ?_, (hosts_absent.mp gone).reserve (hosts.number_apart own) ?_, gone⟩
    · rw [call_of_session? found, perform, (session?_eq_some found).2]
    · exact hosts.number_new _ List.mem_cons_self number own

/-- Whatever becomes of a transaction that is to be aborted, its session keeps nothing. -/
theorem Hosts.abort_loose {number : SessionId}
    (hosts : Hosts frame (.loose number :: others) memory) :
    Hosts frame (.loose number :: others) (Memory.call number .abort memory).2 := by
  have sound := hosts.sound.call number .abort
  cases found : memory.session? number with
  | none =>
    rw [Memory.call, found]
    exact hosts
  | some session =>
    obtain ⟨_, rfl⟩ := session?_eq_some found
    rw [call_of_session? found] at sound ⊢
    cases staged : session.staged with
    | none =>
      simp only [perform, staged] at sound ⊢
      exact hosts.grow sound rfl ⟨rfl, rfl, rfl⟩ (Nat.le_refl _) (Nat.le_refl _)
    | some waiting =>
      simp only [perform, staged] at sound ⊢
      exact (hosts.restage rfl ⟨rfl, rfl, rfl⟩ found sound rfl ⟨rfl, rfl, rfl⟩ rfl
        (Nat.le_refl _) fun _ member => absurd member List.not_mem_nil).loosen rfl ⟨rfl, rfl, rfl⟩

end Calls

end Memory

end TrafficPolicy
