import TrafficPolicy.Proofs.Engine.Front
import TrafficPolicy.Proofs.Engine.LiveCalls

/-!
# Tenants of an engine

A `Tenant` is what one user has in an engine in memory: nothing, a session of which no more is
known than its number, a session with its transaction, or a provider, a sublayer and filters that
a session keeps there.  `Hosts frame tenants memory` says that the engine holds what the tenants
have beside what stood in an earlier state `frame`, and nothing else.

Each call of one tenant takes the engine from hosting that tenant to hosting what becomes of it,
with the others as they were.  A policy that is installed alone and policies that are installed
side by side are both runs of these steps.
-/

namespace TrafficPolicy

/-- What a user of an engine has there. -/
inductive Tenant where
  | absent
  /-- A session that may be open or not. -/
  | loose (session : SessionId)
  /-- An open session that has put nothing into the tables. -/
  | staging (session : SessionId) (staged : Option (List Write))
  /-- An open session without a transaction that keeps filters in the tables. -/
  | settled (session : SessionId) (ns : Namespace) (stored : List Stored)

namespace Tenant

/-- The number of the tenant's session. -/
def number? : Tenant → Option SessionId
  | absent => none
  | loose session | staging session _ | settled session .. => some session

/-- The tenant's session, if it is known to be open. -/
def session? : Tenant → Option Session
  | absent | loose _ => none
  | staging session staged => some ⟨session, staged⟩
  | settled session _ _ => some ⟨session, none⟩

theorem number?_of_session? {tenant : Tenant} {session : Session}
    (known : tenant.session? = some session) : tenant.number? = some session.id := by
  cases tenant <;> cases known <;> rfl

/-- The providers that the tenant keeps. -/
def providers : Tenant → List (Key × SessionId)
  | settled session ns _ => [(ns.provider, session)]
  | absent | loose _ | staging .. => []

/-- The sublayers that the tenant keeps. -/
def sublayers : Tenant → List (Key × Key)
  | settled _ ns _ => [(ns.sublayer, ns.provider)]
  | absent | loose _ | staging .. => []

/-- The filters that the tenant keeps. -/
def filters : Tenant → List Stored
  | settled _ _ stored => stored
  | absent | loose _ | staging .. => []

/-- The keys of the providers that the tenant registers. -/
def Names (key : Key) : Tenant → Prop
  | staging _ staged => Write.provider key ∈ staged.getD []
  | settled _ ns _ => key = ns.provider
  | absent | loose _ => False

/-- The tenant keeps its filters under its namespace, in the order of their numbers. -/
def Orderly : Tenant → Prop
  | settled _ ns stored => (∀ filter ∈ stored, filter.ns = ns) ∧ stored.Pairwise (·.id < ·.id)
  | absent | loose _ | staging .. => True

/-- The tenant has nothing in the tables. -/
def Bare (tenant : Tenant) : Prop :=
  tenant.providers = [] ∧ tenant.sublayers = [] ∧ tenant.filters = []

theorem providers_of_mem {tenant : Tenant} {entry : Key × SessionId}
    (member : entry ∈ tenant.providers) :
    tenant.number? = some entry.2 ∧ tenant.Names entry.1 := by
  cases tenant with
  | settled session ns stored =>
    rw [List.mem_singleton.mp member]
    exact ⟨rfl, rfl⟩
  | absent => cases member
  | loose session => cases member
  | staging session staged => cases member

/-- All that a tenant keeps hangs under a provider that it keeps. -/
theorem provider_of_mem {tenant : Tenant} (orderly : tenant.Orderly) :
    (∀ entry ∈ tenant.sublayers, ∃ owner, (entry.2, owner) ∈ tenant.providers) ∧
      ∀ stored ∈ tenant.filters, ∃ owner, (stored.ns.provider, owner) ∈ tenant.providers := by
  cases tenant with
  | settled session ns kept =>
    refine ⟨fun entry member => ⟨session, ?_⟩, fun stored member => ⟨session, ?_⟩⟩
    · rw [List.mem_singleton.mp member]
      exact List.mem_singleton_self _
    · rw [orderly.1 stored member]
      exact List.mem_singleton_self _
  | absent => simp [sublayers, filters]
  | loose session => simp [sublayers, filters]
  | staging session staged => simp [sublayers, filters]

end Tenant

/-- What a transaction writes that registers a namespace and filters under it. -/
def Namespace.writes (ns : Namespace) (stored : List Stored) : List Write :=
  .provider ns.provider :: .sublayer ns.sublayer ns.provider :: stored.map .filter

namespace Namespace

theorem mem_writes {ns : Namespace} {stored : List Stored} {write : Write} :
    write ∈ ns.writes stored ↔ write = .provider ns.provider ∨
      write = .sublayer ns.sublayer ns.provider ∨ ∃ filter ∈ stored, write = .filter filter := by
  simp [Namespace.writes, eq_comm]

theorem filterMap_writes (ns : Namespace) (stored : List Stored) :
    (ns.writes stored).filterMap Write.stored? = stored := by
  have each : stored.filterMap (Write.stored? ∘ Write.filter) = stored.filterMap some := rfl
  simp only [Namespace.writes, List.filterMap_cons, Write.stored?, List.filterMap_map]
  rw [each, List.filterMap_some]

end Namespace

namespace Memory

/-- The engine holds what it held at `frame` and what the tenants have, and nothing else. -/
structure Hosts (frame : Memory) (tenants : List Tenant) (memory : Memory) : Prop where
  frame_sound : frame.Sound
  sound : memory.Sound
  session_frame : ∀ session ∈ frame.sessions, memory.session? session.id = some session
  session_tenant : ∀ tenant ∈ tenants, ∀ session, tenant.session? = some session →
    memory.session? session.id = some session
  owned : ∀ session ∈ memory.sessions, session ∈ frame.sessions ∨
    ∃ tenant ∈ tenants, tenant.number? = some session.id
  numbers_nodup : (tenants.filterMap Tenant.number?).Nodup
  number_new : ∀ tenant ∈ tenants, ∀ number, tenant.number? = some number →
    frame.lastSession < number ∧ number ≤ memory.lastSession
  numbers_le : frame.lastSession ≤ memory.lastSession
  keys_le : frame.keysDrawn ≤ memory.keysDrawn
  names_new : ∀ tenant ∈ tenants, ∀ key, tenant.Names key → ¬ frame.Drawn key
  orderly : ∀ tenant ∈ tenants, tenant.Orderly
  providers : ∀ entry, entry ∈ memory.providers ↔
    entry ∈ frame.providers ∨ ∃ tenant ∈ tenants, entry ∈ tenant.providers
  sublayers : ∀ entry, entry ∈ memory.sublayers ↔
    entry ∈ frame.sublayers ∨ ∃ tenant ∈ tenants, entry ∈ tenant.sublayers
  filters : ∀ stored, stored ∈ memory.filters ↔
    stored ∈ frame.filters ∨ ∃ tenant ∈ tenants, stored ∈ tenant.filters

section Hosting

variable {frame memory next : Memory} {tenants others : List Tenant}

/-- An engine hosts nobody but itself. -/
theorem Sound.hosts_nil (sound : memory.Sound) : Hosts memory [] memory where
  frame_sound := sound
  sound := sound
  session_frame session member := by
    cases found : memory.session? session.id with
    | none => exact absurd rfl (session?_eq_none_iff.mp found session member)
    | some other =>
      obtain ⟨inside, same⟩ := session?_eq_some found
      obtain ⟨elsewhere, apart, perm, _⟩ := sound.exists_others found
      rcases List.mem_cons.mp (perm.mem_iff.mp member) with rfl | place
      · rfl
      · exact absurd rfl (apart session place)
  session_tenant _ member := nomatch member
  owned session member := Or.inl member
  numbers_nodup := List.nodup_nil
  number_new _ member := nomatch member
  numbers_le := Nat.le_refl _
  keys_le := Nat.le_refl _
  names_new _ member := nomatch member
  orderly _ member := nomatch member
  providers entry := by simp
  sublayers entry := by simp
  filters stored := by simp

/-- The order of the tenants does not matter. -/
theorem Hosts.perm (hosts : Hosts frame tenants memory) (perm : tenants.Perm others) :
    Hosts frame others memory where
  frame_sound := hosts.frame_sound
  sound := hosts.sound
  session_frame := hosts.session_frame
  session_tenant tenant member := hosts.session_tenant tenant (perm.mem_iff.mpr member)
  owned session member := by simpa only [perm.mem_iff] using hosts.owned session member
  numbers_nodup := (perm.filterMap _).nodup_iff.mp hosts.numbers_nodup
  number_new tenant member := hosts.number_new tenant (perm.mem_iff.mpr member)
  numbers_le := hosts.numbers_le
  keys_le := hosts.keys_le
  names_new tenant member := hosts.names_new tenant (perm.mem_iff.mpr member)
  orderly tenant member := hosts.orderly tenant (perm.mem_iff.mpr member)
  providers entry := by simpa only [perm.mem_iff] using hosts.providers entry
  sublayers entry := by simpa only [perm.mem_iff] using hosts.sublayers entry
  filters stored := by simpa only [perm.mem_iff] using hosts.filters stored

/-- One who has nothing is a tenant anywhere. -/
theorem hosts_absent : Hosts frame (.absent :: others) memory ↔ Hosts frame others memory := by
  constructor
  · intro hosts
    exact {
      hosts with
      session_tenant := fun tenant member => hosts.session_tenant tenant (by simp [member])
      owned := by simpa [Tenant.number?] using hosts.owned
      numbers_nodup := by simpa [Tenant.number?, List.filterMap_cons] using hosts.numbers_nodup
      number_new := fun tenant member => hosts.number_new tenant (by simp [member])
      names_new := fun tenant member => hosts.names_new tenant (by simp [member])
      orderly := fun tenant member => hosts.orderly tenant (by simp [member])
      providers := by simpa [Tenant.providers] using hosts.providers
      sublayers := by simpa [Tenant.sublayers] using hosts.sublayers
      filters := by simpa [Tenant.filters] using hosts.filters }
  · intro hosts
    exact {
      hosts with
      session_tenant := by simpa [Tenant.session?] using hosts.session_tenant
      owned := by simpa [Tenant.number?] using hosts.owned
      numbers_nodup := by simpa [Tenant.number?, List.filterMap_cons] using hosts.numbers_nodup
      number_new := by simpa [Tenant.number?] using hosts.number_new
      names_new := by simpa [Tenant.Names] using hosts.names_new
      orderly := by simpa [Tenant.Orderly] using hosts.orderly
      providers := by simpa [Tenant.providers] using hosts.providers
      sublayers := by simpa [Tenant.sublayers] using hosts.sublayers
      filters := by simpa [Tenant.filters] using hosts.filters }

/-! ## Steps of the first tenant -/

theorem session?_setStaged (memory : Memory) (id other : SessionId)
    (staged : Option (List Write)) :
    (memory.setStaged id staged).session? other =
      if other = id then (memory.session? id).map fun session => { session with staged }
      else memory.session? other := by
  unfold session? setStaged
  rw [List.find?_map]
  induction memory.sessions with
  | nil => simp
  | cons session rest ih =>
    by_cases first : session.id = id <;> by_cases same : session.id = other <;>
      by_cases wanted : other = id <;> simp_all

/-- Where one session ends the others stay open as they are. -/
theorem session?_purge (memory : Memory) {id other : SessionId} (apart : other ≠ id) :
    (memory.purge id).session? other = memory.session? other := by
  simp only [session?, Memory.purge, List.find?_filter]
  refine congrArg (fun p => List.find? p memory.sessions) (funext fun session => ?_)
  by_cases same : session.id = other <;> simp [same, apart]

theorem Hosts.number_apart {tenant : Tenant} (hosts : Hosts frame (tenant :: others) memory)
    {number : SessionId} (own : tenant.number? = some number) :
    ∀ other ∈ others, other.number? ≠ some number := by
  intro other inside same
  have nodup := hosts.numbers_nodup
  rw [List.filterMap_cons_some own, List.nodup_cons] at nodup
  exact nodup.1 (List.mem_filterMap.mpr ⟨other, inside, same⟩)

/-- Counters may grow. -/
theorem Hosts.grow (hosts : Hosts frame tenants memory) (sound : next.Sound)
    (sessions : next.sessions = memory.sessions)
    (tables : next.providers = memory.providers ∧ next.sublayers = memory.sublayers ∧
      next.filters = memory.filters)
    (numbers : memory.lastSession ≤ next.lastSession) (keys : memory.keysDrawn ≤ next.keysDrawn) :
    Hosts frame tenants next := by
  have lookup : ∀ id, next.session? id = memory.session? id := fun id => by
    rw [session?, sessions, session?]
  obtain ⟨providers, sublayers, filters⟩ := tables
  exact {
    hosts with
    sound := sound
    session_frame := by simpa only [lookup] using hosts.session_frame
    session_tenant := by simpa only [lookup] using hosts.session_tenant
    owned := by simpa only [sessions] using hosts.owned
    number_new := fun tenant member number own =>
      have bounds := hosts.number_new tenant member number own
      ⟨bounds.1, Nat.le_trans bounds.2 numbers⟩
    numbers_le := Nat.le_trans hosts.numbers_le numbers
    keys_le := Nat.le_trans hosts.keys_le keys
    providers := by simpa only [providers] using hosts.providers
    sublayers := by simpa only [sublayers] using hosts.sublayers
    filters := by simpa only [filters] using hosts.filters }

/-- Faults may be set at any time. -/
theorem Hosts.rearmed (hosts : Hosts frame tenants memory) (armed : memory.Rearmed next) :
    Hosts frame tenants next := by
  obtain ⟨k, failing, rfl⟩ := armed
  exact hosts.grow
    (hosts.sound.grow rfl rfl rfl rfl (Nat.le_refl _) (Nat.le_refl _) (Nat.le_refl _))
    rfl ⟨rfl, rfl, rfl⟩ (Nat.le_refl _) (Nat.le_refl _)

/-- The first tenant may be known by no more than its number. -/
theorem Hosts.loosen {tenant : Tenant} {number : SessionId}
    (hosts : Hosts frame (tenant :: others) memory) (own : tenant.number? = some number)
    (bare : tenant.Bare) : Hosts frame (.loose number :: others) memory := by
  obtain ⟨providers, sublayers, filters⟩ := bare
  have same : (Tenant.loose number).number? = tenant.number? := own.symm
  have nodup := hosts.numbers_nodup
  have numbers := hosts.number_new tenant List.mem_cons_self number own
  rw [List.filterMap_cons_some own] at nodup
  exact {
    hosts with
    session_tenant := by
      intro other member session is
      rcases List.mem_cons.mp member with rfl | inside
      · cases is
      · exact hosts.session_tenant other (List.mem_cons_of_mem _ inside) session is
    owned := by simpa [same] using hosts.owned
    numbers_nodup := nodup
    number_new := by
      intro other member id is
      rcases List.mem_cons.mp member with rfl | inside
      · cases is
        exact numbers
      · exact hosts.number_new other (List.mem_cons_of_mem _ inside) id is
    names_new := by
      intro other member key names
      rcases List.mem_cons.mp member with rfl | inside
      · cases names
      · exact hosts.names_new other (List.mem_cons_of_mem _ inside) key names
    orderly := by
      intro other member
      rcases List.mem_cons.mp member with rfl | inside
      · trivial
      · exact hosts.orderly other (List.mem_cons_of_mem _ inside)
    providers := by
      simpa [providers, show (Tenant.loose number).providers = [] from rfl] using hosts.providers
    sublayers := by
      simpa [sublayers, show (Tenant.loose number).sublayers = [] from rfl] using hosts.sublayers
    filters := by
      simpa [filters, show (Tenant.loose number).filters = [] from rfl] using hosts.filters }

/-- The transaction of a tenant with nothing in the tables may change. -/
theorem Hosts.restage {tenant : Tenant} {session : Session} {after : Option (List Write)}
    (hosts : Hosts frame (tenant :: others) memory) (own : tenant.number? = some session.id)
    (bare : tenant.Bare) (found : memory.session? session.id = some session) (sound : next.Sound)
    (sessions : next.sessions = (memory.setStaged session.id after).sessions)
    (tables : next.providers = memory.providers ∧ next.sublayers = memory.sublayers ∧
      next.filters = memory.filters)
    (opened : next.lastSession = memory.lastSession) (keys : memory.keysDrawn ≤ next.keysDrawn)
    (new : ∀ key, Write.provider key ∈ after.getD [] → ¬ frame.Drawn key) :
    Hosts frame (.staging session.id after :: others) next := by
  have hosts := hosts.loosen own bare
  have lookup : ∀ other, next.session? other =
      if other = session.id then some ⟨session.id, after⟩ else memory.session? other := by
    intro other
    have eq : next.session? other = (memory.setStaged session.id after).session? other := by
      rw [session?, sessions, session?]
    rw [eq, session?_setStaged, found]
    rfl
  have bounds := hosts.number_new _ List.mem_cons_self session.id rfl
  obtain ⟨providers, sublayers, filters⟩ := tables
  exact {
    frame_sound := hosts.frame_sound
    sound := sound
    session_frame := fun other member => by
      have below := hosts.frame_sound.number_le other member
      rw [lookup, if_neg (Nat.ne_of_lt (Nat.lt_of_le_of_lt below bounds.1))]
      exact hosts.session_frame other member
    session_tenant := by
      intro tenant member other is
      rcases List.mem_cons.mp member with rfl | inside
      · cases is
        rw [lookup, if_pos rfl]
      · have apart : other.id ≠ session.id := fun same =>
          hosts.number_apart rfl tenant inside (same ▸ Tenant.number?_of_session? is)
        rw [lookup, if_neg apart]
        exact hosts.session_tenant tenant (List.mem_cons_of_mem _ inside) other is
    owned := by
      intro other member
      rw [sessions] at member
      rcases mem_setStaged member with rfl | ⟨inside, _⟩
      · exact Or.inr ⟨_, List.mem_cons_self, rfl⟩
      · simpa [Tenant.number?] using hosts.owned other inside
    numbers_nodup := by simpa [Tenant.number?] using hosts.numbers_nodup
    number_new := by simpa [Tenant.number?, opened] using hosts.number_new
    numbers_le := opened ▸ hosts.numbers_le
    keys_le := Nat.le_trans hosts.keys_le keys
    names_new := by
      intro tenant member key names
      rcases List.mem_cons.mp member with rfl | inside
      · exact new key names
      · exact hosts.names_new tenant (List.mem_cons_of_mem _ inside) key names
    orderly := by simpa [Tenant.Orderly] using hosts.orderly
    providers := by simpa [Tenant.providers, providers] using hosts.providers
    sublayers := by simpa [Tenant.sublayers, sublayers] using hosts.sublayers
    filters := by simpa [Tenant.filters, filters] using hosts.filters }

/-- What the first tenant has put into the tables is its own from there on. -/
theorem Hosts.settle {ns : Namespace} {stored : List Stored}
    {number : SessionId} (hosts : Hosts frame (.staging number none :: others) memory)
    (sound : next.Sound)
    (sessions : next.sessions = memory.sessions)
    (opened : next.lastSession = memory.lastSession) (keys : next.keysDrawn = memory.keysDrawn)
    (new : ¬ frame.Drawn ns.provider) (under : ∀ filter ∈ stored, filter.ns = ns)
    (sorted : stored.Pairwise (·.id < ·.id))
    (providers : ∀ entry, entry ∈ next.providers ↔
      entry ∈ memory.providers ∨ entry = (ns.provider, number))
    (sublayers : ∀ entry, entry ∈ next.sublayers ↔
      entry ∈ memory.sublayers ∨ entry = (ns.sublayer, ns.provider))
    (filters : ∀ filter, filter ∈ next.filters ↔
      filter ∈ memory.filters ∨ filter ∈ stored) :
    Hosts frame (.settled number ns stored :: others) next := by
  have lookup : ∀ id, next.session? id = memory.session? id := fun id => by
    rw [session?, sessions, session?]
  exact {
    frame_sound := hosts.frame_sound
    sound := sound
    session_frame := by simpa only [lookup] using hosts.session_frame
    session_tenant := by simpa [lookup, Tenant.session?] using hosts.session_tenant
    owned := by simpa [sessions, Tenant.number?] using hosts.owned
    numbers_nodup := by simpa [Tenant.number?] using hosts.numbers_nodup
    number_new := by simpa [Tenant.number?, opened] using hosts.number_new
    numbers_le := opened ▸ hosts.numbers_le
    keys_le := keys ▸ hosts.keys_le
    names_new := by
      intro tenant member key names
      rcases List.mem_cons.mp member with rfl | inside
      · rw [show key = ns.provider from names]
        exact new
      · exact hosts.names_new tenant (by simp [inside]) key names
    orderly := by
      intro tenant member
      rcases List.mem_cons.mp member with rfl | inside
      · exact ⟨under, sorted⟩
      · exact hosts.orderly tenant (by simp [inside])
    providers := fun entry => by
      have before := hosts.providers entry
      simp only [Tenant.providers, List.mem_cons, exists_eq_or_imp, List.not_mem_nil,
        false_or, or_false] at before ⊢
      rw [providers entry, before, or_assoc, or_comm (b := entry = _)]
    sublayers := fun entry => by
      have before := hosts.sublayers entry
      simp only [Tenant.sublayers, List.mem_cons, exists_eq_or_imp, List.not_mem_nil,
        false_or, or_false] at before ⊢
      rw [sublayers entry, before, or_assoc, or_comm (b := entry = _)]
    filters := fun filter => by
      have before := hosts.filters filter
      simp only [Tenant.filters, List.mem_cons, exists_eq_or_imp, List.not_mem_nil,
        false_or] at before ⊢
      rw [filters filter, before, or_assoc, or_comm (b := filter ∈ stored)] }

end Hosting

end Memory

end TrafficPolicy
