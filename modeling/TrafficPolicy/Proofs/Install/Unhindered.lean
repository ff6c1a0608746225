import TrafficPolicy.Proofs.Engine.Refusals
import TrafficPolicy.Proofs.Install.StageTenancy

/-!
# Installations that nothing hinders

The engine in memory refuses a call for a reason: it was made to, or the call does not fit what the
session has done before.  An installation makes only calls that fit.  So it is granted all of them
where none is made to fail (`Policy.install_unarmed`).
-/

namespace TrafficPolicy

namespace Memory

/-- Which calls are to fail. -/
def arms (memory : Memory) : Option Nat × Bool :=
  (memory.failAddFilterAt, memory.failCommit)

/-- No call is to fail. -/
def Unarmed (memory : Memory) : Prop :=
  memory.arms = (none, false)

/-- What a session must have staged for a call on it. -/
def Prepared (staged : Option (List Write)) : Call → Prop
  | .begin => staged = none
  | .commit | .abort => staged.isSome = true
  | .addSublayer provider _ _ => .provider provider ∈ staged.getD []
  | .addFilter ns _ => .sublayer ns.sublayer ns.provider ∈ staged.getD []
  | .addProvider .. | .close => True

variable {memory next : Memory} {id : SessionId} {call : Call}

theorem unarmed_empty : ({} : Memory).Unarmed :=
  rfl

theorem arms_foldl_apply (owner : SessionId) (writes : List Write) (memory : Memory) :
    (writes.foldl (Memory.apply owner) memory).arms = memory.arms := by
  induction writes generalizing memory with
  | nil => rfl
  | cons write rest ih =>
    rw [List.foldl_cons, ih]
    cases write <;> rfl

theorem arms_write (memory : Memory) (session : Session) (write : Write) :
    (memory.write session write).arms = memory.arms := by
  rw [Memory.write]
  cases session.staged with
  | none => exact arms_foldl_apply session.id [write] memory
  | some staged => rfl

theorem arms_perform (memory : Memory) (session : Session) (call : Call) :
    (memory.perform session call).2.arms = memory.arms := by
  cases call with
  | begin => rw [perform]; cases session.staged <;> rfl
  | commit =>
    rw [perform]
    cases session.staged with
    | none => rfl
    | some staged =>
      dsimp only
      split
      · rfl
      · exact arms_foldl_apply ..
  | abort => rw [perform]; cases session.staged <;> rfl
  | addProvider name description => exact arms_write ..
  | addSublayer provider name description =>
    rw [perform]
    split
    · exact arms_write ..
    · rfl
  | addFilter ns filter =>
    rw [perform, Memory.addFilter]
    dsimp only
    split
    · rfl
    · split
      · rfl
      · exact arms_write ..
  | close => rfl

/-- Calls leave it as it is which calls are to fail. -/
theorem arms_call (id : SessionId) (call : Call) (memory : Memory) :
    (Memory.call id call memory).2.arms = memory.arms := by
  rw [Memory.call]
  cases memory.session? id with
  | none => rfl
  | some session => exact arms_perform _ session call

/-- A call that fits what its session has done is granted. -/
theorem Unarmed.grants (unarmed : memory.Unarmed) {staged : Option (List Write)}
    (opened : memory.session? id = some ⟨id, staged⟩) (call : Call)
    (prepared : Prepared staged call) :
    ∃ reply next, Memory.call id call memory = (.ok reply, next) ∧ next.Unarmed := by
  have kept := arms_call id call memory
  rcases outcome : Memory.call id call memory with ⟨error | reply, next⟩
  · exfalso
    obtain ⟨spared, passing⟩ := Prod.mk.inj unarmed
    cases refused_iff.mp outcome with
    | closed absent => rw [opened] at absent; cases absent
    | begun found =>
      rw [opened] at found
      cases found
      cases prepared
    | idle found ending =>
      rw [opened] at found
      cases found
      rcases ending with rfl | rfl <;> cases prepared
    | withoutProvider found unknown =>
      rw [opened] at found
      cases found
      simp [providerKnown, show Write.provider _ ∈ staged.getD [] from prepared] at unknown
    | failingFilter found due => rw [spared] at due; cases due
    | withoutSublayer found _ unknown =>
      rw [opened] at found
      cases found
      simp [sublayerKnown, show Write.sublayer _ _ ∈ staged.getD [] from prepared] at unknown
    | failingCommit found failing => rw [passing] at failing; cases failing
  · rw [outcome] at kept
    exact ⟨reply, next, rfl, kept.trans unarmed⟩

theorem Unarmed.request (unarmed : memory.Unarmed) {staged : Option (List Write)}
    (opened : memory.session? id = some ⟨id, staged⟩) (call : Call)
    (prepared : Prepared staged call) :
    ∃ reply next, Memory.engine.request id call memory = (.ok reply, next) ∧ next.Unarmed := by
  obtain ⟨reply, next, granted, unarmed⟩ := unarmed.grants opened call prepared
  have called : Memory.engine.call id call memory = (.ok reply, next) := granted
  refine ⟨reply, next, ?_, unarmed⟩
  rw [Engine.request, called]
  rfl

end Memory

namespace Stage

open Memory

/-- No call of the installation has failed so far. -/
def Unfailed {ι : Type} : Stage ι → Prop
  | opening | beginning _ | naming _ | layering .. | filling .. | finished (.ok _) => True
  | aborting .. | closing .. | leaving .. | finished (.error _) => False

variable {frame memory : Memory} {others : List Tenant} (options : InstallOptions) (policy : Policy)

/-- The next call of an installation is granted where none is to fail. -/
theorem step_unfailed {stage : Stage SessionId} (unfailed : stage.Unfailed)
    (unarmed : memory.Unarmed) (hosts : Hosts frame (stage.tenant policy :: others) memory) :
    (stage.step Memory.engine options policy memory).1.Unfailed ∧
      (stage.step Memory.engine options policy memory).2.Unarmed := by
  cases stage with
  | opening => exact ⟨trivial, unarmed⟩
  | beginning session =>
    obtain ⟨_, next, granted, unarmed⟩ := unarmed.request hosts.session?_staging .begin rfl
    rw [step, granted]
    exact ⟨trivial, unarmed⟩
  | naming session =>
    obtain ⟨provider, next, granted, unarmed⟩ := unarmed.request hosts.session?_staging
      (.addProvider options.providerName options.sessionDescription) trivial
    rw [step, granted]
    exact ⟨trivial, unarmed⟩
  | layering session provider =>
    obtain ⟨sublayer, next, granted, unarmed⟩ := unarmed.request hosts.session?_staging
      (.addSublayer provider options.sublayerName options.sessionDescription) List.mem_cons_self
    rw [step, granted]
    exact ⟨trivial, unarmed⟩
  | filling session ns ids =>
    have known : Write.sublayer ns.sublayer ns.provider ∈
        ns.writes (ns.stored ids policy.filters) :=
      Namespace.mem_writes.mpr (Or.inr (Or.inl rfl))
    cases found : policy.filters[ids.length]? with
    | some filter =>
      obtain ⟨number, next, granted, unarmed⟩ :=
        unarmed.request hosts.session?_staging (.addFilter ns filter) known
      simp only [step, found, granted]
      exact ⟨trivial, unarmed⟩
    | none =>
      obtain ⟨_, next, granted, unarmed⟩ := unarmed.request hosts.session?_staging .commit rfl
      simp only [step, found, granted]
      exact ⟨trivial, unarmed⟩
  | finished result => exact ⟨unfailed, unarmed⟩
  | aborting session error => exact unfailed.elim
  | closing session error => exact unfailed.elim
  | leaving session error => exact unfailed.elim

theorem iterate_unfailed (n : Nat) (stage : Stage SessionId) (unfailed : stage.Unfailed)
    (consistent : stage.Consistent policy) (unarmed : memory.Unarmed)
    (hosts : Hosts frame (stage.tenant policy :: others) memory) :
    ((advance Memory.engine options policy)^[n] (stage, memory)).1.Unfailed ∧
      ((advance Memory.engine options policy)^[n] (stage, memory)).2.Unarmed := by
  induction n generalizing stage memory with
  | zero => exact ⟨unfailed, unarmed⟩
  | succ n ih =>
    obtain ⟨next, eq, consistent, hosted⟩ :=
      step_hosts front_engine options policy stage consistent hosts
    obtain ⟨unfailed, unarmed⟩ := step_unfailed options policy unfailed unarmed hosts
    subst eq
    exact ih _ unfailed consistent unarmed hosted

end Stage

open Memory

/-- Where no call is to fail, an installation puts the whole policy into the engine. -/
theorem Policy.install_unarmed {frame memory : Memory} {others : List Tenant}
    (options : InstallOptions) (policy : Policy) (unarmed : memory.Unarmed)
    (hosts : Hosts frame others memory) :
    ∃ installed next, policy.install Memory.engine options memory = (.ok installed, next) ∧
      installed.Complete policy ∧ next.Unarmed ∧
      Hosts frame (installed.tenant policy :: others) next := by
  obtain ⟨n, eq⟩ := Stage.exists_iterate_eq_install Memory.engine options policy memory
  have started := hosts_absent.mpr hosts
  obtain ⟨unfailed, unarmed⟩ :=
    Stage.iterate_unfailed options policy n .opening trivial trivial unarmed started
  rw [eq] at unfailed unarmed
  rcases policy.install_hosts front_engine options hosts with
    ⟨error, next, failed, _⟩ | ⟨installed, next, succeeded, complete, hosts⟩
  · rw [failed] at unfailed
    exact unfailed.elim
  · rw [succeeded] at unarmed
    exact ⟨installed, next, succeeded, complete, unarmed, hosts⟩

end TrafficPolicy
