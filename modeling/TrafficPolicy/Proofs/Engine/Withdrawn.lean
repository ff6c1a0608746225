import Mathlib.Data.Fintype.Sum
import Mathlib.Data.Nat.Nth
import Mathlib.Logic.Equiv.Fintype
import Mathlib.Order.Interval.Set.Infinite
import TrafficPolicy.Proofs.Engine.OpenTransaction

/-!
# Transactions that come to nothing

A transaction that is aborted, or whose commit is made to fail, leaves no trace.  A `Script` is a
run in which some moves are marked to be left out, and `Withdraws` says that these are the moves of
a session in such transactions, from the beginning to the end.  Without them all other moves get the
same answers, and the engine decides as it does with them, at every moment
(`withdrawn_never_happened`).

The names of keys and the numbers of filters differ, as those of the transaction are not given out.
While it is open, the engine is like the other one but for what waits in that one session.
-/

namespace TrafficPolicy

/-- Moves of a run, each with a mark if it is left out. -/
abbrev Script := List (Move × Bool)

namespace Script

/-- All moves of a script. -/
def whole (script : Script) : List Move :=
  script.map (·.1)

/-- The moves of a script that are not left out. -/
def kept (script : Script) : List Move :=
  (script.filter (!·.2)).map (·.1)

/-- The engine after all moves. -/
def state (script : Script) : Memory :=
  (History.run script.whole).memory

/-- The engine after the moves that are not left out, where these say the names that a renaming
takes to the ones in the script. -/
def without (script : Script) (r : Renaming) : Memory :=
  (History.run (script.kept.map (·.rename r.key.symm))).memory

section States

variable (script : Script) (move : Move)

theorem state_concat (left : Bool) :
    state (script ++ [(move, left)]) = (script.state.step move).2 := by
  rw [state, whole, List.map_append, List.map_singleton, History.run_concat,
    History.memory_after]
  rfl

theorem without_left (r : Renaming) :
    without (script ++ [(move, true)]) r = script.without r := by
  rw [without, kept, List.filter_append]
  simp [without, kept]

theorem without_kept (r : Renaming) :
    without (script ++ [(move, false)]) r =
      ((script.without r).step (move.rename r.key.symm)).2 := by
  rw [without, kept, List.filter_append, List.map_append, List.map_append]
  exact (congrArg _ (History.run_concat _ _)).trans (History.memory_after _ _)

theorem sound_state : script.state.Sound :=
  (History.sound_run script.whole).memory

theorem grows_state {earlier later : Script} (before : earlier <+: later) :
    earlier.state.Grows later.state :=
  History.grows_of_isPrefix (before.map _)

end States

/-! ## Transactions that are left out -/

/-- The moves that are left out are those of a session in transactions that it begins and that come
to nothing.  The Boolean says whether such a transaction is open.  No addition of a filter is made
to fail. -/
inductive Withdraws (id : SessionId) : Bool → Script → Prop
  | start : Withdraws id false []
  | keep {script : Script} {move : Move} : Withdraws id false script → move.arms = false →
    Withdraws id false (script ++ [(move, false)])
  | begin {script : Script} : Withdraws id false script →
    (Memory.call id .begin script.state).1 = .ok () →
    Withdraws id true (script ++ [(.call id .begin, true)])
  /-- What the session does in the transaction does not end it. -/
  | inside {script : Script} {call : Call} : Withdraws id true script →
    call ≠ .commit ∧ call ≠ .abort ∧ call ≠ .close →
    Withdraws id true (script ++ [(.call id call, true)])
  /-- All others go on meanwhile. -/
  | beside {script : Script} {move : Move} : Withdraws id true script → move.arms = false →
    move.isOf id = false → Withdraws id true (script ++ [(move, false)])
  /-- The transaction is aborted, or its commit is made to fail. -/
  | ending {script : Script} {call : Call} : Withdraws id true script →
    (call = .abort ∨
      call = .commit ∧ (Memory.call id .commit script.state).1 = .error .injectedCommit) →
    Withdraws id false (script ++ [(.call id call, true)])

/-! ## What is given out -/

/-- No move that is left out takes a counter on from `n`. -/
def Spared (script : Script) (counter : Memory → Nat) (n : Nat) : Prop :=
  ∀ (before : Script) (move : Move), before ++ [(move, true)] <+: script →
    counter before.state = n →
    counter (state (before ++ [(move, true)])) = n

open Classical in
/-- How many of the first `n` counts are spared. -/
noncomputable def remaining (script : Script) (counter : Memory → Nat) (n : Nat) : Nat :=
  Nat.count (script.Spared counter) n

/-- A counter that does not go back. -/
def Onward (counter : Memory → Nat) : Prop :=
  ∀ earlier later : Script, earlier <+: later → counter earlier.state ≤ counter later.state

open Classical in
/-- A permutation of the keys that are drawn takes the first of them to those that are spared. -/
theorem exists_perm_draw (spared : Nat → Prop) (bound : Nat) :
    ∃ key : Equiv.Perm Key, (∀ other, (∀ n < bound, other ≠ Key.draw n) → key other = other) ∧
      ∀ n < bound, spared n → key (Key.draw (Nat.count spared n)) = Key.draw n := by
  let place (n : Fin bound) : Fin bound :=
    ⟨Nat.count spared n, Nat.lt_of_le_of_lt (Nat.count_le _) n.isLt⟩
  let draws : Fin bound ↪ Key := ⟨fun n => Key.draw n, fun _ _ same =>
    Fin.ext (Key.draw_injective same)⟩
  have apart : Set.InjOn place (Finset.univ.filter fun n : Fin bound => spared n) := by
    intro m first n second same
    rw [Finset.mem_coe, Finset.mem_filter] at first second
    exact Fin.ext (Nat.count_injective first.2 second.2 (congrArg Fin.val same))
  obtain ⟨extended, extends_place⟩ := Finset.exists_equiv_extend_of_card_eq
    (t := (Finset.univ : Finset (Fin bound))) (by rw [Finset.card_univ])
    (Finset.subset_univ _) apart
  let perm : Equiv.Perm (Fin bound) :=
    extended.trans (Equiv.subtypeUnivEquiv Finset.mem_univ)
  refine ⟨(perm.viaFintypeEmbedding draws).symm, fun other outside => ?_, fun n below is => ?_⟩
  · have away : other ∉ Set.range draws := by
      rintro ⟨n, rfl⟩
      exact outside n n.isLt rfl
    rw [Equiv.symm_apply_eq]
    exact (perm.viaFintypeEmbedding_apply_notMem_range draws away).symm
  · have taken : perm ⟨n, below⟩ = place ⟨n, below⟩ :=
      extends_place _ (Finset.mem_filter.mpr ⟨Finset.mem_univ _, is⟩)
    have image := perm.viaFintypeEmbedding_apply_image draws ⟨n, below⟩
    rw [taken] at image
    rw [Equiv.symm_apply_eq]
    exact image.symm

section Counting

variable {script before : Script} {counter : Memory → Nat} {move : Move}

/-- A count that a move takes which is not left out is spared. -/
theorem spared_of_kept (onward : Onward counter)
    (inside : before ++ [(move, false)] <+: script)
    (counts : counter (state (before ++ [(move, false)])) ≠ counter before.state) :
    script.Spared counter (counter before.state) := by
  intro earlier left place same
  have here := onward before (before ++ [(move, false)]) (List.prefix_append _ _)
  have there := onward earlier (earlier ++ [(left, true)]) (List.prefix_append _ _)
  -- one of the two moves comes first, as the marks differ
  rcases List.prefix_or_prefix_of_prefix inside place with first | second
  · rcases List.prefix_concat_iff.mp first with equal | first
    · cases List.append_inj_right' equal rfl
    · have between := onward _ _ first
      omega
  · rcases List.prefix_concat_iff.mp second with equal | second
    · cases List.append_inj_right' equal rfl
    · have between := onward _ _ second
      omega

theorem remaining_zero : script.remaining counter 0 = 0 := by
  rw [remaining, Nat.count_zero]

theorem remaining_left (inside : before ++ [(move, true)] <+: script)
    (steps : counter (state (before ++ [(move, true)])) = counter before.state ∨
      counter (state (before ++ [(move, true)])) = counter before.state + 1) :
    script.remaining counter (counter (state (before ++ [(move, true)]))) =
      script.remaining counter (counter before.state) := by
  rcases steps with same | more
  · rw [same]
  · have lost : ¬ script.Spared counter (counter before.state) := fun spared =>
      Nat.succ_ne_self _ (more.symm.trans (spared before move inside rfl))
    rw [more, remaining, Nat.count_succ, if_neg lost]
    rfl

/-- As many counts are spared as an engine takes that does not make the moves left out. -/
theorem remaining_kept (onward : Onward counter)
    (inside : before ++ [(move, false)] <+: script) {other follow : Nat}
    (so_far : other = script.remaining counter (counter before.state))
    (together : Memory.Together (counter before.state)
      (counter (state (before ++ [(move, false)]))) other follow) :
    follow = script.remaining counter (counter (state (before ++ [(move, false)]))) := by
  rcases together with ⟨same, still⟩ | ⟨more, another⟩
  · rw [same, still, so_far]
  · have spared := spared_of_kept onward inside (more.trans_ne (Nat.succ_ne_self _))
    rw [more, another, so_far, remaining, remaining, Nat.count_succ, if_pos spared]

/-- Counters take all counts in the end. -/
theorem spared_of_le (onward : Onward counter) {n : Nat} (above : counter script.state ≤ n) :
    script.Spared counter n := by
  intro before left place same
  have here := onward before (before ++ [(left, true)]) (List.prefix_append _ _)
  have last := onward _ _ place
  omega

open Classical in
/-- Numbers can be taken to those that are spared in the same order. -/
theorem exists_strictMono (script : Script) (onward : Onward counter) :
    ∃ number : Nat → Nat, StrictMono number ∧
      ∀ n, script.Spared counter n → number (script.remaining counter n + 1) = n + 1 := by
  have infinite : (Set.ofPred (script.Spared counter)).Infinite :=
    (Set.Ici_infinite (counter script.state)).mono fun n above => spared_of_le onward above
  have increasing := Nat.nth_strictMono infinite
  refine ⟨fun n => if n = 0 then 0 else Nat.nth (script.Spared counter) (n - 1) + 1,
    strictMono_nat_of_lt_succ fun n => ?_, fun n spared => ?_⟩
  · cases n with
    | zero => exact Nat.succ_pos _
    | succ n => exact Nat.succ_lt_succ (increasing (Nat.lt_succ_self n))
  · exact congrArg (· + 1) (Nat.nth_count spared)

end Counting

theorem onward_keysDrawn : Onward Memory.keysDrawn :=
  fun _ _ before => (grows_state before).keysDrawn

theorem onward_lastFilter : Onward Memory.lastFilter :=
  fun _ _ before => (grows_state before).lastFilter

/-- A renaming takes what is given out without the moves that are left out to what is given out
with them. -/
structure Fitted (script : Script) (r : Renaming) : Prop where
  fixed : ∀ key, ¬ script.state.Drawn key → r.key key = key
  key : ∀ n < script.state.keysDrawn, script.Spared Memory.keysDrawn n →
    r.key (Key.draw (script.remaining Memory.keysDrawn n)) = Key.draw n
  number : ∀ n, script.Spared Memory.lastFilter n →
    r.number (script.remaining Memory.lastFilter n + 1) = n + 1

theorem exists_fitted (script : Script) : ∃ r, Fitted script r := by
  obtain ⟨key, fixed, drawn⟩ :=
    exists_perm_draw (script.Spared Memory.keysDrawn) script.state.keysDrawn
  obtain ⟨number, strictMono, numbered⟩ := exists_strictMono script onward_lastFilter
  refine ⟨⟨key, number, strictMono⟩, fun other undrawn => ?_, drawn, numbered⟩
  exact fixed other fun n below same => undrawn ⟨n, below, same⟩

/-! ## With and without -/

/-- After the moves `before` of a script the engine is like the one without those left out.  While
the transaction is open, this is so but for what waits in its session. -/
structure Echoes (script : Script) (r : Renaming) (id : SessionId) (inside : Bool)
    (before : Script) : Prop where
  keys : (before.without r).keysDrawn =
    script.remaining Memory.keysDrawn before.state.keysDrawn
  numbers : (before.without r).lastFilter =
    script.remaining Memory.lastFilter before.state.lastFilter
  like : inside = false → before.state.Like r (before.without r)
  waiting : inside = true → ∃ writes, before.state.session? id = some ⟨id, some writes⟩
  like_but : inside = true → (before.state.setStaged id none).Like r (before.without r)

section Echo

variable {script before : Script} {r : Renaming} {id : SessionId} {inside : Bool} {move : Move}

/-- What a move that is not left out gives out fits the renaming. -/
theorem Fitted.fits (fitted : Fitted script r) (echoes : Echoes script r id inside before)
    (place : before ++ [(move, false)] <+: script) :
    Memory.Fits r before.state (before.without r) (before.state.step move).2 := by
  rw [← state_concat before move false]
  constructor
  · intro counts
    have spared := spared_of_kept onward_keysDrawn place counts
    have here := onward_keysDrawn before (before ++ [(move, false)]) (List.prefix_append _ _)
    rw [echoes.keys]
    refine fitted.key _ ?_ spared
    exact Nat.lt_of_lt_of_le (Nat.lt_of_le_of_ne here counts.symm) (onward_keysDrawn _ _ place)
  · intro counts
    rw [echoes.numbers]
    exact fitted.number _ (spared_of_kept onward_lastFilter place counts)

/-- The counters keep step with what is spared. -/
theorem Echoes.counts_kept (echoes : Echoes script r id inside before)
    (place : before ++ [(move, false)] <+: script)
    (keys : Memory.Together before.state.keysDrawn (before.state.step move).2.keysDrawn
      (before.without r).keysDrawn ((before.without r).step (move.rename r.key.symm)).2.keysDrawn)
    (numbers : Memory.Together before.state.lastFilter (before.state.step move).2.lastFilter
      (before.without r).lastFilter
      ((before.without r).step (move.rename r.key.symm)).2.lastFilter) :
    (without (before ++ [(move, false)]) r).keysDrawn =
        script.remaining Memory.keysDrawn (state (before ++ [(move, false)])).keysDrawn ∧
      (without (before ++ [(move, false)]) r).lastFilter =
        script.remaining Memory.lastFilter (state (before ++ [(move, false)])).lastFilter := by
  rw [← state_concat before move false, ← without_kept] at keys numbers
  exact ⟨remaining_kept onward_keysDrawn place echoes.keys keys,
    remaining_kept onward_lastFilter place echoes.numbers numbers⟩

/-- A move that is not left out is answered as it is without those that are. -/
theorem Echoes.kept (echoes : Echoes script r id inside before) (fitted : Fitted script r)
    (place : before ++ [(move, false)] <+: script) (unarmed : move.arms = false)
    (apart : inside = true → move.isOf id = false) :
    (before.state.step move).1 =
        ((before.without r).step (move.rename r.key.symm)).1.map r.given ∧
      Echoes script r id inside (before ++ [(move, false)]) := by
  have fits := fitted.fits echoes place
  have unarmed' : (move.rename r.key.symm).arms = false := by
    rw [Move.arms_rename, unarmed]
  cases inside with
  | false =>
    rw [← move.rename_symm r.key] at fits
    have reflects := (echoes.like rfl).step unarmed' fits
    rw [move.rename_symm r.key] at reflects
    obtain ⟨keys, numbers⟩ := echoes.counts_kept place reflects.keys reflects.numbers
    refine ⟨reflects.answer, keys, numbers, fun _ => ?_, nofun, nofun⟩
    rw [state_concat, without_kept]
    exact reflects.like
  | true =>
    -- the other engine is like this one without what waits, which the move takes no notice of
    have same := @Memory.step_setStaged before.state id move (apart rfl)
    have fits' : Memory.Fits r (before.state.setStaged id none) (before.without r)
        ((before.state.setStaged id none).step ((move.rename r.key.symm).rename r.key)).2 := by
      rw [move.rename_symm, same]
      exact ⟨fits.key, fits.number⟩
    have reflects := (echoes.like_but rfl).step unarmed' fits'
    rw [move.rename_symm r.key, same] at reflects
    obtain ⟨keys, numbers⟩ := echoes.counts_kept place reflects.keys reflects.numbers
    refine ⟨reflects.answer, keys, numbers, nofun, fun _ => ?_, fun _ => ?_⟩
    · obtain ⟨writes, opened⟩ := echoes.waiting rfl
      rw [state_concat]
      exact ⟨writes, (sound_state before).session?_step opened (apart rfl)⟩
    · rw [state_concat, without_kept]
      exact reflects.like

/-- A move that is left out changes counts, and what waits in its session. -/
theorem Echoes.left (echoes : Echoes script r id inside before)
    (place : before ++ [(move, true)] <+: script) {session : Session}
    (opened : before.state.session? id = some session)
    (like : (before.state.setStaged id none).Like r (before.without r)) {counted : Memory}
    (ticks : before.state.Ticks counted) {staged : Option (List Write)}
    (becomes : (before.state.step move).2 = counted.setStaged id staged) :
    Echoes script r id staged.isSome (before ++ [(move, true)]) := by
  have next := (state_concat before move true).trans becomes
  have like' := like.ticks ticks
  have opened' : counted.session? id = some session := by
    obtain ⟨_, _, _, _, _, _, rfl⟩ := ticks
    exact opened
  constructor
  · rw [without_left, remaining_left place (next ▸ ticks.keysDrawn), echoes.keys]
  · rw [without_left, remaining_left place (next ▸ ticks.lastFilter), echoes.numbers]
  · intro ended
    rw [Option.isSome_eq_false_iff, Option.isNone_iff_eq_none] at ended
    rw [next, without_left, ended]
    exact like'
  · intro waits
    obtain ⟨writes, rfl⟩ := Option.isSome_iff_exists.mp waits
    rw [next, Memory.session?_setStaged, if_pos rfl, opened']
    rw [Option.map_some, (Memory.session?_eq_some opened).2]
    exact ⟨writes, rfl⟩
  · intro _
    rw [next, without_left, Memory.setStaged_setStaged]
    exact like'

end Echo

/-- Whatever moves are left out so far, the engine without them is like the one with them. -/
theorem Withdraws.echoes {script before : Script} {r : Renaming} {id : SessionId} {inside : Bool}
    (fitted : Fitted script r) (withdraws : Withdraws id inside before)
    (place : before <+: script) : Echoes script r id inside before := by
  induction withdraws with
  | start =>
    have like : Memory.Like r {} {} := ⟨rfl, rfl, ⟨rfl, rfl⟩, rfl, rfl, rfl, rfl⟩
    exact ⟨remaining_zero.symm, remaining_zero.symm, fun _ => like, nofun, nofun⟩
  | @keep before move _ unarmed ih =>
    exact ((ih ((List.prefix_append _ _).trans place)).kept fitted place unarmed nofun).2
  | @beside before move _ unarmed apart ih =>
    exact ((ih ((List.prefix_append _ _).trans place)).kept fitted place unarmed
      fun _ => apart).2
  | @begin before _ begun ih =>
    have echoes := ih ((List.prefix_append _ _).trans place)
    obtain ⟨opened, counted, ticks, becomes⟩ := Memory.call_begin begun
    refine echoes.left place opened ?_ ticks becomes
    have same := @Memory.Sound.setStaged_eq_self _ (sound_state before) ⟨id, none⟩ opened
    rw [same]
    exact echoes.like rfl
  | @inside before call _ stays ih =>
    have echoes := ih ((List.prefix_append _ _).trans place)
    obtain ⟨writes, opened⟩ := echoes.waiting rfl
    obtain ⟨counted, added, ticks, becomes⟩ := (sound_state before).call_waiting opened stays
    exact echoes.left place opened (echoes.like_but rfl) ticks becomes
  | @ending before call _ ends ih =>
    have echoes := ih ((List.prefix_append _ _).trans place)
    obtain ⟨writes, opened⟩ := echoes.waiting rfl
    obtain ⟨counted, ticks, becomes⟩ := Memory.call_ending opened ends
    exact echoes.left place opened (echoes.like_but rfl) ticks becomes

/-- What has been done of a script so far is a script of the same kind. -/
theorem Withdraws.of_isPrefix {script before : Script} {id : SessionId} {inside : Bool}
    (withdraws : Withdraws id inside script) (place : before <+: script) :
    ∃ within, Withdraws id within before := by
  have last : ∀ {earlier : Script} {entry : Move × Bool} {within : Bool},
      Withdraws id within (earlier ++ [entry]) →
      (before <+: earlier → ∃ within, Withdraws id within before) →
      before <+: earlier ++ [entry] → ∃ within, Withdraws id within before :=
    fun all shorter place =>
      (List.prefix_concat_iff.mp place).elim (fun same => ⟨_, same ▸ all⟩) shorter
  induction withdraws with
  | start => exact ⟨false, List.prefix_nil.mp place ▸ .start⟩
  | keep so_far unarmed ih => exact last (.keep so_far unarmed) ih place
  | begin so_far begun ih => exact last (.begin so_far begun) ih place
  | inside so_far stays ih => exact last (.inside so_far stays) ih place
  | beside so_far unarmed apart ih => exact last (.beside so_far unarmed apart) ih place
  | ending so_far ends ih => exact last (.ending so_far ends) ih place

/-- A move that is not left out asks for no failing addition, and is not of the session while the
transaction is open. -/
theorem Withdraws.of_kept {script before : Script} {id : SessionId} {inside : Bool} {move : Move}
    (withdraws : Withdraws id inside script) (is : script = before ++ [(move, false)]) :
    Withdraws id inside before ∧ move.arms = false ∧ (inside = true → move.isOf id = false) := by
  cases withdraws with
  | start => cases List.append_ne_nil_of_right_ne_nil before (List.cons_ne_nil _ _) is.symm
  | keep so_far unarmed =>
    obtain ⟨rfl, same⟩ := List.append_inj' is rfl
    cases same
    exact ⟨so_far, unarmed, nofun⟩
  | beside so_far unarmed apart =>
    obtain ⟨rfl, same⟩ := List.append_inj' is rfl
    cases same
    exact ⟨so_far, unarmed, fun _ => apart⟩
  | begin | inside | ending => cases List.append_inj_right' is rfl

/-- Transactions that come to nothing might as well never have happened.  Without them, and but for
the names of keys and the numbers of filters, the engine answers all other moves and decides all
packets as it does with them. -/
theorem withdrawn_never_happened {id : SessionId} {inside : Bool} {script : Script}
    (withdraws : Withdraws id inside script) :
    ∃ r : Renaming, (∀ key, ¬ script.state.Drawn key → r.key key = key) ∧
      ∀ before : Script, before <+: script →
        (∀ packet, before.state.classify packet = (before.without r).classify packet) ∧
        ∀ move, before ++ [(move, false)] <+: script →
          (before.state.step move).1 =
            ((before.without r).step (move.rename r.key.symm)).1.map r.given := by
  obtain ⟨r, fitted⟩ := exists_fitted script
  refine ⟨r, fitted.fixed, fun before place => ⟨fun packet => ?_, fun move next => ?_⟩⟩
  · obtain ⟨within, so_far⟩ := withdraws.of_isPrefix place
    have echoes := so_far.echoes fitted place
    cases within with
    | false => exact (echoes.like rfl).classify packet
    | true => exact (echoes.like_but rfl).classify packet
  · obtain ⟨within, so_far⟩ := withdraws.of_isPrefix next
    obtain ⟨so_far, unarmed, apart⟩ := so_far.of_kept rfl
    exact ((so_far.echoes fitted place).kept fitted next unarmed apart).1

/-- A session adds a filter while another one prepares something and gives it up. -/
theorem given_up_unseen :
    let ns : Namespace := ⟨Key.draw 0, Key.draw 1⟩
    let filter : Filter := ⟨.connectV4, .block, 1, [], "all"⟩
    let script : Script :=
      [(.openSession, false), (.openSession, false), (.call 1 (.addProvider "p" ""), false),
        (.call 1 (.addSublayer ns.provider "s" ""), false), (.call 2 .begin, true),
        (.call 2 (.addFilter ns { filter with action := .allow }), true),
        (.call 1 (.addFilter ns filter), false), (.call 2 .abort, true)]
    Withdraws 2 false script ∧ ∃ r : Renaming,
      (script.without r).classify (.outbound (.ofOctets 9 9 9 9) 443 6) = some .block := by
  intro ns filter script
  have withdraws : Withdraws 2 false script := by
    have opened := @Withdraws.keep 2 [] .openSession .start rfl
    have both := @Withdraws.keep 2 _ .openSession opened rfl
    have provider := @Withdraws.keep 2 _ (.call 1 (.addProvider "p" "")) both rfl
    have sublayer := @Withdraws.keep 2 _ (.call 1 (.addSublayer ns.provider "s" "")) provider rfl
    have begun := sublayer.begin rfl
    have prepared := @Withdraws.inside 2 _ (.addFilter ns { filter with action := .allow }) begun
      ⟨nofun, nofun, nofun⟩
    have added := @Withdraws.beside 2 _ (.call 1 (.addFilter ns filter)) prepared rfl rfl
    exact added.ending (Or.inl rfl)
  obtain ⟨r, _, alike⟩ := withdrawn_never_happened withdraws
  refine ⟨withdraws, r, ?_⟩
  rw [← (alike script List.prefix_rfl).1]
  decide +kernel

end Script

end TrafficPolicy
