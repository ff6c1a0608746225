import TrafficPolicy.Proofs.Engine.TenantCalls

/-!
# Tables that tenants share

The providers, sublayers and filters of an engine are what stood there before its tenants came,
followed by what each tenant has, up to the order.  No two tenants keep anything under one
provider, so what an engine gives for the namespace of a tenant is what that tenant has there.
-/

namespace TrafficPolicy

namespace Memory

section Tables

variable {frame memory : Memory} {tenants others : List Tenant}

/-- No two tenants keep something under one provider. -/
theorem Hosts.pairwise_apart (hosts : Hosts frame tenants memory) :
    tenants.Pairwise fun first second => ∀ key m n,
      (key, m) ∈ first.providers → (key, n) ∉ second.providers := by
  have numbers := List.pairwise_filterMap.mp hosts.numbers_nodup
  refine List.Pairwise.imp_of_mem ?_ numbers
  intro first second here there differ key m n mine theirs
  have both : (key, m) = (key, n) :=
    List.inj_on_of_nodup_map hosts.sound.providers_nodup
      ((hosts.providers _).mpr (Or.inr ⟨first, here, mine⟩))
      ((hosts.providers _).mpr (Or.inr ⟨second, there, theirs⟩)) rfl
  exact differ m (Tenant.providers_of_mem mine).1 n (Tenant.providers_of_mem theirs).1
    (Prod.mk.inj both).2

/-- What stood in a table and what the tenants add to it, all under providers, is all different. -/
theorem Hosts.nodup_table {α : Type} {key : α → Key} {table : Tenant → List α} {old : List α}
    (hosts : Hosts frame tenants memory) (nodup : old.Nodup)
    (drawn : ∀ entry ∈ old, frame.Drawn (key entry))
    (each : ∀ tenant ∈ tenants, (table tenant).Nodup)
    (under : ∀ tenant ∈ tenants, ∀ entry ∈ table tenant,
      ∃ owner, (key entry, owner) ∈ tenant.providers) :
    (old ++ tenants.flatMap table).Nodup := by
  refine List.nodup_append.mpr ⟨nodup, List.nodup_flatMap.mpr ⟨each, ?_⟩, ?_⟩
  · refine List.Pairwise.imp_of_mem ?_ hosts.pairwise_apart
    intro first second here there apart entry mine theirs
    obtain ⟨m, left⟩ := under first here entry mine
    obtain ⟨n, right⟩ := under second there entry theirs
    exact apart (key entry) m n left right
  · intro entry present other added same
    subst same
    obtain ⟨tenant, member, place⟩ := List.mem_flatMap.mp added
    obtain ⟨owner, provider⟩ := under tenant member entry place
    exact hosts.names_new tenant member _ (Tenant.providers_of_mem provider).2
      (drawn entry present)

theorem nodup_of_sorted {stored : List Stored} (sorted : stored.Pairwise (·.id < ·.id)) :
    stored.Nodup := by
  refine List.Pairwise.imp ?_ sorted
  rintro first second below rfl
  exact Nat.lt_irrefl _ below

theorem Hosts.perm_providers (hosts : Hosts frame tenants memory) :
    memory.providers.Perm (frame.providers ++ tenants.flatMap Tenant.providers) := by
  have nodup : (frame.providers ++ tenants.flatMap Tenant.providers).Nodup := by
    refine hosts.nodup_table (List.Nodup.of_map _ hosts.frame_sound.providers_nodup)
      hosts.frame_sound.drawn_of_mem.1 (fun tenant _ => ?_)
      fun tenant _ entry place => ⟨entry.2, place⟩
    cases tenant <;> simp [Tenant.providers]
  refine (List.perm_ext_iff_of_nodup (List.Nodup.of_map _ hosts.sound.providers_nodup) nodup).mpr
    fun entry => ?_
  rw [hosts.providers, List.mem_append, List.mem_flatMap]

theorem Hosts.perm_sublayers (hosts : Hosts frame tenants memory) :
    memory.sublayers.Perm (frame.sublayers ++ tenants.flatMap Tenant.sublayers) := by
  have nodup : (frame.sublayers ++ tenants.flatMap Tenant.sublayers).Nodup := by
    refine hosts.nodup_table (List.Nodup.of_map _ hosts.frame_sound.sublayers_nodup)
      hosts.frame_sound.drawn_of_mem.2.1 (fun tenant _ => ?_)
      fun tenant member => (Tenant.provider_of_mem (hosts.orderly tenant member)).1
    cases tenant <;> simp [Tenant.sublayers]
  refine (List.perm_ext_iff_of_nodup (List.Nodup.of_map _ hosts.sound.sublayers_nodup) nodup).mpr
    fun entry => ?_
  rw [hosts.sublayers, List.mem_append, List.mem_flatMap]

theorem Hosts.perm_filters (hosts : Hosts frame tenants memory) :
    memory.filters.Perm (frame.filters ++ tenants.flatMap Tenant.filters) := by
  have nodup : (frame.filters ++ tenants.flatMap Tenant.filters).Nodup := by
    refine hosts.nodup_table (nodup_of_sorted hosts.frame_sound.filters_sorted)
      hosts.frame_sound.drawn_of_mem.2.2 (fun tenant member => ?_)
      fun tenant member => (Tenant.provider_of_mem (hosts.orderly tenant member)).2
    cases tenant with
    | settled session ns stored => exact nodup_of_sorted (hosts.orderly _ member).2
    | _ => exact List.nodup_nil
  refine (List.perm_ext_iff_of_nodup (nodup_of_sorted hosts.sound.filters_sorted) nodup).mpr
    fun stored => ?_
  rw [hosts.filters, List.mem_append, List.mem_flatMap]

/-- The engine has the filters of a tenant, in their order, and no others in the namespace. -/
theorem Hosts.filtersIn_eq {number : SessionId} {ns : Namespace} {stored : List Stored}
    (hosts : Hosts frame (.settled number ns stored :: others) memory) :
    memory.filtersIn ns = stored := by
  obtain ⟨under, sorted⟩ := hosts.orderly _ List.mem_cons_self
  have same : ∀ entry, entry ∈ memory.filtersIn ns ↔ entry ∈ stored := by
    intro entry
    rw [filtersIn, List.mem_filter, decide_eq_true_eq, hosts.filters]
    constructor
    · rintro ⟨old | ⟨other, member, place⟩, rfl⟩
      · exact absurd (hosts.frame_sound.drawn_of_mem.2.2 entry old)
          (hosts.names_new _ List.mem_cons_self entry.ns.provider rfl)
      · rcases List.mem_cons.mp member with rfl | inside
        · exact place
        · have provider := (Tenant.provider_of_mem (hosts.orderly other member)).2
          obtain ⟨owner, theirs⟩ := provider entry place
          have mine := (hosts.mem_providers_iff rfl _).mpr (List.mem_singleton_self _)
          exact absurd mine (hosts.kept_of_other rfl inside theirs)
    · exact fun place => ⟨Or.inr ⟨_, List.mem_cons_self, place⟩, under entry place⟩
  have ordered : (memory.filtersIn ns).Pairwise (·.id < ·.id) :=
    hosts.sound.filters_sorted.sublist List.filter_sublist
  have perm :=
    (List.perm_ext_iff_of_nodup (nodup_of_sorted ordered) (nodup_of_sorted sorted)).mpr same
  exact perm.eq_of_pairwise (fun _ _ _ _ less more => absurd less (Nat.lt_asymm more)) ordered
    sorted

/-- A tenant of an engine without filters has all the filters that are there. -/
theorem Hosts.filters_eq {number : SessionId} {ns : Namespace} {stored : List Stored}
    (hosts : Hosts frame [.settled number ns stored] memory) (empty : frame.filters = []) :
    memory.filters = stored := by
  have inside : memory.filtersIn ns = memory.filters := by
    refine List.filter_eq_self.mpr fun entry member => decide_eq_true ?_
    rcases (hosts.filters entry).mp member with old | ⟨tenant, place, kept⟩
    · rw [empty] at old
      cases old
    · rw [List.mem_singleton.mp place] at kept
      exact (hosts.orderly _ List.mem_cons_self).1 entry kept
  rw [← inside]
  exact hosts.filtersIn_eq

/-- A tenant that is alone in an engine has all the filters that are there. -/
theorem Hosts.filters_of_alone {tenant : Tenant} (hosts : Hosts frame [tenant] memory)
    (empty : frame.filters = []) : memory.filters = tenant.filters := by
  have perm := hosts.perm_filters
  rw [empty, List.nil_append, List.flatMap_singleton] at perm
  cases tenant with
  | settled session ns stored => exact hosts.filters_eq empty
  | _ => exact perm.eq_nil

/-- A tenant of an engine without sessions has the only one that is there. -/
theorem Hosts.sessions_eq {number : SessionId} {ns : Namespace} {stored : List Stored}
    (hosts : Hosts frame [.settled number ns stored] memory) (empty : frame.sessions = []) :
    memory.sessions = [⟨number, none⟩] := by
  have found := hosts.session_tenant _ List.mem_cons_self ⟨number, none⟩ rfl
  obtain ⟨elsewhere, apart, perm, _⟩ := hosts.sound.exists_others found
  have nobody : elsewhere = [] := by
    refine List.eq_nil_iff_forall_not_mem.mpr fun session member => ?_
    have present := perm.mem_iff.mpr (List.mem_cons_of_mem _ member)
    rcases hosts.owned session present with old | ⟨tenant, inside, own⟩
    · rw [empty] at old
      cases old
    · rw [List.mem_singleton.mp inside] at own
      exact apart session member (Option.some.inj own).symm
  rw [nobody] at perm
  exact List.perm_singleton.mp perm

end Tables

end Memory

end TrafficPolicy
