import Obsw.Freertos.TaskTicks

/-!
# `Freertos.TaskInvariant` — what holds between two calls of the kernel

The invariant of the tasks (`Core`): the idle task is ready, a task that waits for an event is not ready, every
task is in a list, and nobody oversleeps. Beside it, that nothing is pended while the scheduler runs (`Settled`)
and that a ready task of a higher priority than the one that runs has a switch pending (`Preempts`). A task that
creates another one looks at its priority only behind the critical section, so until then its own new task
(`creating`) is left out there.
-/

namespace Obsw
namespace Freertos
namespace Kernel

/-- A task waits for its tick, or for an event without a time. -/
def Blocked (k : Kernel) (t : Task) : Prop := k.Delayed t ∨ k.InState t .suspended

structure Core (idle : Task) (alive : Task → Prop) (ticks : Nat) (wake : Task → Nat) (k : Kernel) : Prop where
  base : Base alive k
  timed : Timed k ticks (ticks + 1) wake
  unblocks : Unblocks k
  idleReady : k.InState idle (.ready 0)
  waiting : ∀ t n, k.Waits t n → k.Blocked t
  placed : ∀ t, alive t → ∃ n, k.InState t n
  priorities : ∀ t, alive t → k.uxPriority t < configMAX_PRIORITIES

structure Settled (k : Kernel) : Prop where
  pended : k.xPendedTicks < 2 ^ 32
  running : k.uxSchedulerSuspended = 0 → (∀ t, ¬ k.Waits t .pendingReady) ∧ k.xPendedTicks = 0

def Preempts (creating : Task → Option Task) (k : Kernel) : Prop :=
  k.xYieldPending = false → ∀ t p, k.InState t (.ready p) → creating t ≠ some k.pxCurrentTCB →
    p ≤ k.uxPriority k.pxCurrentTCB

/-- A ready task of the highest priority runs. -/
structure Chosen (k : Kernel) : Prop where
  ready : k.InState k.pxCurrentTCB (.ready (k.uxPriority k.pxCurrentTCB))
  highest : ∀ t p, k.InState t (.ready p) → p ≤ k.uxPriority k.pxCurrentTCB

/-- The processor has gone to a ready task of the highest priority if to another at all. -/
def Dispatched (k k' : Kernel) : Prop :=
  k'.pxCurrentTCB = k.pxCurrentTCB ∨ k'.uxSchedulerSuspended = 0 ∧ k'.Chosen

/-- The tasks are the same; the lists may have been turned. -/
structure SameTasks (k k' : Kernel) : Prop where
  items : ∀ n, k'.items n = k.items n
  value : ∀ x, k'.value x = k.value x
  pxContainer : k'.pxContainer = k.pxContainer
  uxPriority : k'.uxPriority = k.uxPriority
  pxDelayedTaskList : k'.pxDelayedTaskList = k.pxDelayedTaskList
  pxOverflowDelayedTaskList : k'.pxOverflowDelayedTaskList = k.pxOverflowDelayedTaskList
  xTickCount : k'.xTickCount = k.xTickCount
  xNumOfOverflows : k'.xNumOfOverflows = k.xNumOfOverflows
  xNextTaskUnblockTime : k'.xNextTaskUnblockTime = k.xNextTaskUnblockTime

section Invariant

variable {idle t u : Task} {alive : Task → Prop} {ticks : Nat} {wake : Task → Nat}
  {creating : Task → Option Task} {k k' k'' : Kernel} {n : ListName} {p q : Task → Prop}

theorem InState.unique (h : k.InState t n) {n' : ListName} (h' : k.InState t n') : n = n' :=
  Node.list.inj (Option.some.inj (h.symm.trans h'))

theorem Base.delayed_iff (h : Base alive k) (t : Task) :
    k.Delayed t ↔ k.InState t .delayed1 ∨ k.InState t .delayed2 := by
  unfold Delayed
  rcases h.delayedLists with ⟨h1, h2⟩ | ⟨h1, h2⟩ <;> rw [h1, h2]
  exact or_comm

/-- A ready task is not blocked. -/
theorem Core.not_blocked (h : Core idle alive ticks wake k) {p : Nat} (ht : k.InState t (.ready p)) :
    ¬ k.Blocked t := by
  obtain ⟨hdelayed, hoverflow, _⟩ := h.base.delayed_ne
  rintro ((hb | hb) | hb)
  · exact hdelayed p (hb.unique ht)
  · exact hoverflow p (hb.unique ht)
  · cases hb.unique ht

theorem Core.not_waits (h : Core idle alive ticks wake k) {p : Nat} (ht : k.InState t (.ready p)) :
    k.pxContainer (.event t) = none := by
  cases hc : k.pxContainer (.event t) with
  | none => rfl
  | some e =>
      obtain ⟨n, rfl⟩ := h.base.wf.named _ e hc
      exact absurd (h.waiting t n hc) (h.not_blocked ht)

theorem Core.known (h : Core idle alive ticks wake k) (ht : k.InState t n) : alive t := by
  refine h.base.known t fun hnone => ?_
  have hstate : k.pxContainer (.state t) = _ := ht
  rw [hnone] at hstate
  cases hstate

/-- Nobody oversleeps. -/
theorem Core.not_late (h : Core idle alive ticks wake k) (ht : k.Delayed t) : ticks < wake t := by
  rcases ht with ht | ht
  · exact (h.timed.delayed t ht).2.1
  · have hepoch := (h.timed.overflow t ht).2
    omega

theorem SameTasks.core (hs : SameTasks k k') (h : Core idle alive ticks wake k)
    (htop : ∀ t p, k.InState t (.ready p) → p ≤ k'.uxTopReadyPriority) : Core idle alive ticks wake k' := by
  have hstate : ∀ t n, k'.InState t n ↔ k.InState t n := fun t n => by rw [InState, InState, hs.pxContainer]
  have hbase := h.base.congr hs.items hs.value hs.pxContainer hs.uxPriority
    (Or.inl ⟨hs.pxDelayedTaskList, hs.pxOverflowDelayedTaskList⟩) htop
  refine ⟨hbase, ⟨?_, ?_, fun t ht => ?_, fun t ht => ?_⟩, fun t ht => ?_, ?_, fun t n ht => ?_, fun t ht => ?_, ?_⟩
  · exact hs.xTickCount.trans h.timed.tick
  · exact hs.xNumOfOverflows.trans h.timed.overflows
  · rw [hs.value]
    rw [hs.pxDelayedTaskList, hstate] at ht
    exact h.timed.delayed t ht
  · rw [hs.value]
    rw [hs.pxOverflowDelayedTaskList, hstate] at ht
    exact h.timed.overflow t ht
  · rw [hs.xNextTaskUnblockTime, hs.value]
    rw [hs.pxDelayedTaskList, hstate] at ht
    exact h.unblocks t ht
  · exact (hstate _ _).mpr h.idleReady
  · rw [Waits, hs.pxContainer] at ht
    have hblocked := h.waiting t n ht
    simp only [Blocked, h.base.delayed_iff, hbase.delayed_iff, hstate] at hblocked ⊢
    exact hblocked
  · simp only [hstate]
    exact h.placed t ht
  · rw [hs.uxPriority]
    exact h.priorities

/-- Blocked tasks have become ready. -/
theorem Core.woken {ticks' : Nat} (h : Core idle alive ticks wake k) (hw : Woken k k' p)
    (hp : ∀ t, p t → k.Blocked t) (hbase : Base alive k') (htimed : Timed k' ticks' (ticks' + 1) wake)
    (hunblocks : Unblocks k') : Core idle alive ticks' wake k' := by
  have hidle : ¬ p idle := fun hpi => h.not_blocked h.idleReady (hp idle hpi)
  refine ⟨hbase, htimed, hunblocks, ?_, fun t n ht => ?_, fun t ht => ?_, ?_⟩
  · exact (hw.stayed idle hidle).1.trans h.idleReady
  · by_cases hpt : p t
    · have hnone := (hw.left t hpt).2
      rw [Waits, hnone] at ht
      cases ht
    · obtain ⟨hstate, hevent⟩ := hw.stayed t hpt
      have hblocked := h.waiting t n (hevent.symm.trans ht)
      simp only [Blocked, h.base.delayed_iff, hbase.delayed_iff, InState] at hblocked ⊢
      rw [hstate]
      exact hblocked
  · by_cases hpt : p t
    · exact ⟨_, (hw.left t hpt).1⟩
    · obtain ⟨n, hn⟩ := h.placed t ht
      exact ⟨n, (hw.stayed t hpt).1.trans hn⟩
  · rw [hw.uxPriority]
    exact h.priorities

/-- The event items of the tasks that have stayed are where they were. -/
theorem Woken.waits (hw : Woken k k' p) (ht : k'.Waits t n) : k.Waits t n ∧ ¬ p t := by
  by_cases hpt : p t
  · have hnone := (hw.left t hpt).2
    rw [Waits, hnone] at ht
    cases ht
  · exact ⟨(hw.stayed t hpt).2.symm.trans ht, hpt⟩

/-- Who has not become ready is delayed as before. -/
theorem Woken.delayed_iff (hw : Woken k k' p) (h : Base alive k) (h' : Base alive k') (t : Task) (due : Prop) :
    (p t ∨ k'.Delayed t ∧ due) ↔ (p t ∨ k.Delayed t ∧ due) := by
  by_cases hpt : p t
  · exact iff_of_true (Or.inl hpt) (Or.inl hpt)
  · simp only [h.delayed_iff, h'.delayed_iff, InState, (hw.stayed t hpt).1]

/-- No ready task has a higher priority if none that has become ready has. -/
theorem Preempts.woken (hpre : Preempts creating k) (hw : Woken k k' p)
    (hcurrent : k'.pxCurrentTCB = k.pxCurrentTCB) (hyield : k'.xYieldPending = false → k.xYieldPending = false ∧
      ∀ t, p t → k.uxPriority t ≤ k.uxPriority k.pxCurrentTCB) : Preempts creating k' := by
  intro hfalse t q ht hcreating
  obtain ⟨hbefore, hle⟩ := hyield hfalse
  rw [hcurrent] at hcreating ⊢
  rw [hw.uxPriority]
  by_cases hpt : p t
  · have hq : ListName.ready (k.uxPriority t) = .ready q := (hw.left t hpt).1.unique ht
    rw [← ListName.ready.inj hq]
    exact hle t hpt
  · exact hpre hbefore t q ((hw.stayed t hpt).1.symm.trans ht) hcreating

end Invariant

section Switch

variable {idle : Task} {alive : Task → Prop} {ticks : Nat} {wake : Task → Nat} {k : Kernel}

theorem highestReady_spec (uxTopPriority : Nat)
    (h : ∃ p ≤ uxTopPriority, k.items (.ready p) ≠ []) : ∃ p, k.highestReady uxTopPriority = some p ∧
      k.items (.ready p) ≠ [] ∧ ∀ q, p < q → q ≤ uxTopPriority → k.items (.ready q) = [] := by
  induction uxTopPriority with
  | zero =>
      obtain ⟨p, hp, hitems⟩ := h
      obtain rfl := Nat.le_zero.mp hp
      exact ⟨0, if_neg hitems, hitems, fun q hlt hle => by omega⟩
  | succ uxTopPriority ih =>
      rw [highestReady]
      split_ifs with hempty
      · obtain ⟨p, hp, hitems⟩ := h
        have hne : p ≠ uxTopPriority + 1 := fun heq => hitems (heq ▸ hempty)
        obtain ⟨p', heq, hitems', hrest⟩ := ih ⟨p, by omega, hitems⟩
        refine ⟨p', heq, hitems', fun q hlt hle => ?_⟩
        rcases Nat.le_succ_iff.mp hle with hle | rfl
        · exact hrest q hlt hle
        · exact hempty
      · exact ⟨_, rfl, hempty, fun q hlt hle => by omega⟩

/-- Turning a list does not change what is in it. -/
theorem next_items (k : Kernel) (n m : ListName) :
    ((k.lists.call (.getNext (.list n))).2.rounds (.list m)).items = k.items m := by
  simp only [Contents.call, Function.update_apply, Node.list.injEq]
  split_ifs with hm
  · rw [hm]
    exact Rounds.items_next _
  · rfl

/-- **`vTaskSwitchContext`.** A ready task of the highest priority runs, if the scheduler does; else the switch is
    pended. -/
theorem vTaskSwitchContext_spec (h : Core idle alive ticks wake k) :
    ∃ k', k.vTaskSwitchContext = some k' ∧ SameTasks k k' ∧ Core idle alive ticks wake k' ∧
      k'.uxSchedulerSuspended = k.uxSchedulerSuspended ∧ k'.xPendedTicks = k.xPendedTicks ∧
      (k.uxSchedulerSuspended ≠ 0 → k'.pxCurrentTCB = k.pxCurrentTCB ∧ k'.xYieldPending = true) ∧
      (k.uxSchedulerSuspended = 0 → k'.Chosen) := by
  unfold vTaskSwitchContext
  split_ifs with hsuspended
  · have hs : SameTasks k { k with xYieldPending := true } := by constructor <;> intros <;> rfl
    exact ⟨_, rfl, hs, hs.core h h.base.top, rfl, rfl, fun _ => ⟨rfl, rfl⟩, fun h0 => absurd h0 hsuspended⟩
  · have hidle : (.state idle : Node) ∈ k.items (.ready 0) := (h.base.wf.mem _ _).mpr h.idleReady
    obtain ⟨p, hp, hitems, hrest⟩ := highestReady_spec (k := k) k.uxTopReadyPriority
      ⟨0, Nat.zero_le _, List.ne_nil_of_mem hidle⟩
    rw [hp, Option.map_some]
    -- the highest of the lists that are not empty
    have hhighest : ∀ t q, k.InState t (.ready q) → q ≤ p := by
      intro t q ht
      have hmem := (h.base.wf.mem _ _).mpr ht
      by_contra hlt
      rw [hrest q (by omega) (h.base.top t q ht)] at hmem
      cases hmem
    obtain ⟨x, hx⟩ : ∃ x, (k.lists.rounds (.list (.ready p))).order.head? = some x := by
      cases horder : (k.lists.rounds (.list (.ready p))).order with
      | nil => exact absurd ((horder ▸ Rounds.order_perm _).nil_eq.symm) hitems
      | cons x l => exact ⟨x, rfl⟩
    have hmem := (h.base.wf.mem x _).mp ((Rounds.order_perm _).mem_iff.mp (List.mem_of_mem_head? hx))
    obtain ⟨t, rfl⟩ := h.base.kinds x _ hmem
    dsimp only
    rw [hx, Option.getD_some]
    have hpriority := h.base.ready t p hmem
    generalize hk' : ({ k with
      xYieldPending := false
      pxCurrentTCB := (Node.state t).owner
      lists := (k.lists.call (.getNext (.list (.ready p)))).2
      uxTopReadyPriority := p } : Kernel) = k'
    have hs : SameTasks k k' := by
      subst hk'
      refine ⟨fun n => next_items k _ n, fun _ => rfl, rfl, rfl, rfl, rfl, rfl, rfl, rfl⟩
    subst hk'
    refine ⟨_, rfl, hs, hs.core h hhighest, rfl, rfl, fun hne => absurd hne hsuspended,
      fun _ => ⟨?_, fun u q hu => ?_⟩⟩
    · show k.pxContainer (.state t) = some (.list (.ready (k.uxPriority t)))
      rw [hpriority]
      exact hmem
    · exact (hhighest u q hu).trans hpriority.ge

end Switch

/-- What holds between two calls. -/
structure Inv (idle : Task) (alive : Task → Prop) (ticks : Nat) (wake : Task → Nat)
    (creating : Task → Option Task) (k : Kernel) : Prop where
  core : Core idle alive ticks wake k
  settled : Settled k
  preempts : Preempts creating k
  running : alive k.pxCurrentTCB

section Ticks

variable {idle t : Task} {alive : Task → Prop} {ticks : Nat} {wake : Task → Nat}
  {creating : Task → Option Task} {k k' : Kernel} {p : Task → Prop}

theorem SameTasks.woken (hs : SameTasks k k') : Woken k k' fun _ => False :=
  ⟨hs.uxPriority, fun _ h => h.elim, fun t _ => by rw [hs.pxContainer]; exact ⟨rfl, rfl⟩,
    fun e => by rw [hs.items]⟩

theorem Woken.same (hw : Woken k k' p) {k'' : Kernel} (hs : SameTasks k' k'') : Woken k k'' p :=
  (hw.trans hs.woken).congr fun _ => or_iff_left id

/-- The switch at the end of a call, whoever creates tasks. -/
theorem Core.switch (creating : Task → Option Task) (h : Core idle alive ticks wake k) (hset : Settled k)
    (hrun : alive k.pxCurrentTCB) :
    ∃ k', k.vTaskSwitchContext = some k' ∧ Inv idle alive ticks wake creating k' ∧ SameTasks k k' ∧
      k'.uxSchedulerSuspended = k.uxSchedulerSuspended ∧ k'.xPendedTicks = k.xPendedTicks ∧ Dispatched k k' ∧
      (k.uxSchedulerSuspended = 0 → k'.Chosen) := by
  obtain ⟨k', heq, hs, hcore, hsusp, hpended, hheld, hchosen⟩ := vTaskSwitchContext_spec h
  refine ⟨k', heq, ⟨hcore, ⟨hpended ▸ hset.pended, fun h0 => ?_⟩, fun hfalse t p ht _ => ?_, ?_⟩, hs, hsusp, hpended,
    ?_, hchosen⟩
  · rw [hsusp] at h0
    obtain ⟨hnone, hzero⟩ := hset.running h0
    refine ⟨fun t ht => hnone t ?_, hpended.trans hzero⟩
    rw [Waits, hs.pxContainer] at ht
    exact ht
  · by_cases h0 : k.uxSchedulerSuspended = 0
    · exact (hchosen h0).highest t p ht
    · rw [(hheld h0).2] at hfalse
      cases hfalse
  · by_cases h0 : k.uxSchedulerSuspended = 0
    · exact hcore.known (hchosen h0).ready
    · rw [(hheld h0).1]
      exact hrun
  · by_cases h0 : k.uxSchedulerSuspended = 0
    · exact Or.inr ⟨hsusp.trans h0, hchosen h0⟩
    · exact Or.inl (hheld h0).1

theorem Settled.woken (hset : Settled k) (hw : Woken k k' p)
    (hsusp : k'.uxSchedulerSuspended = k.uxSchedulerSuspended) (hpended : k'.xPendedTicks = k.xPendedTicks) :
    Settled k' := by
  refine ⟨hpended ▸ hset.pended, fun h0 => ?_⟩
  rw [hsusp] at h0
  obtain ⟨hnone, hzero⟩ := hset.running h0
  exact ⟨fun t ht => hnone t (hw.waits ht).1, hpended.trans hzero⟩

theorem xTaskIncrementTick_core (h : Core idle alive ticks wake k) (hrunning : k.uxSchedulerSuspended = 0) :
    ∃ k' xSwitchRequired, k.xTaskIncrementTick = some (k', xSwitchRequired) ∧
      Core idle alive (ticks + 1) wake k' ∧ Ticked k k' (fun t => k.Delayed t ∧ wake t ≤ ticks + 1) ∧
      (xSwitchRequired = false → k.xYieldPending = false ∧
        ∀ t, k.Delayed t ∧ wake t ≤ ticks + 1 → k.uxPriority t ≤ k.uxPriority k.pxCurrentTCB) := by
  obtain ⟨k', sw, heq, hbase, htimed, hunblocks, hticked, hsw⟩ :=
    xTaskIncrementTick_spec h.base h.timed h.unblocks hrunning
  -- nobody is late, so those that are due are due now
  have hdue : ∀ t, (k.Delayed t ∧ wake t = ticks + 1) ↔ (k.Delayed t ∧ wake t ≤ ticks + 1) := by
    intro t
    refine and_congr_right fun ht => ?_
    have hlate := h.not_late ht
    omega
  have hwoken := hticked.woken.congr hdue
  refine ⟨k', sw, heq, h.woken hwoken (fun t ht => Or.inl ht.1) hbase htimed hunblocks,
    ⟨hticked.pxCurrentTCB, hticked.xPendedTicks, hticked.uxSchedulerSuspended, hticked.yield, hticked.value, hwoken⟩, ?_⟩
  intro hfalse
  have hnot : ¬ _ := fun hcases => by
    have htrue := hsw.mpr hcases
    rw [hfalse] at htrue
    cases htrue
  push Not at hnot
  obtain ⟨hless, _, hyield⟩ := hnot
  refine ⟨by simpa using hyield, fun t ht => ?_⟩
  exact Nat.le_of_lt (hless t ((hdue t).mpr ht))

/-- The next tick is pended and wraps the count of the pended ticks. -/
def PendedFull (k : Kernel) : Prop := k.uxSchedulerSuspended ≠ 0 ∧ k.xPendedTicks + 1 = 2 ^ 32

instance (k : Kernel) : Decidable k.PendedFull := inferInstanceAs (Decidable (_ ∧ _))

/-- **`vPortTickISR`.** The tick is counted or pended; if the count of the pended ticks wraps, they are lost. -/
theorem vPortTickISR_spec (h : Inv idle alive ticks wake creating k) : ∃ k' ticks', k.vPortTickISR = some k' ∧
    ticks' = (if k.uxSchedulerSuspended = 0 then ticks + 1 else ticks) ∧ Inv idle alive ticks' wake creating k' ∧
    Woken k k' (fun t => k.Delayed t ∧ wake t ≤ ticks') ∧
    k'.uxSchedulerSuspended = k.uxSchedulerSuspended ∧
    ticks' + k'.xPendedTicks + (if k.PendedFull then 2 ^ 32 else 0) = ticks + k.xPendedTicks + 1 ∧
    Dispatched k k' := by
  unfold vPortTickISR
  by_cases hrunning : k.uxSchedulerSuspended = 0
  · have hfull : ¬ k.PendedFull := fun hfull => hfull.1 hrunning
    rw [if_pos hrunning, if_neg hfull]
    obtain ⟨k', sw, heq, hcore, hticked, hsw⟩ := xTaskIncrementTick_core h.core hrunning
    have hset := h.settled.woken hticked.woken hticked.uxSchedulerSuspended hticked.xPendedTicks
    have hrun : alive k'.pxCurrentTCB := hticked.pxCurrentTCB ▸ h.running
    rw [heq]
    cases hb : sw with
    | false =>
        obtain ⟨hyield, hless⟩ := hsw hb
        have hpre := h.preempts.woken hticked.woken hticked.pxCurrentTCB fun _ => ⟨hyield, hless⟩
        refine ⟨k', _, rfl, rfl, ⟨hcore, hset, hpre, hrun⟩, hticked.woken, hticked.uxSchedulerSuspended, ?_,
          Or.inl hticked.pxCurrentTCB⟩
        rw [hticked.xPendedTicks]
        omega
    | true =>
        obtain ⟨k'', heq', hinv, hs, hsusp, hpended, hdispatched, _⟩ := hcore.switch creating hset hrun
        refine ⟨k'', _, heq', rfl, hinv, hticked.woken.same hs, hsusp.trans hticked.uxSchedulerSuspended, ?_,
          hdispatched.imp_left fun hcurrent => hcurrent.trans hticked.pxCurrentTCB⟩
        rw [hpended, hticked.xPendedTicks]
        omega
  · rw [if_neg hrunning]
    have heq : k.xTaskIncrementTick = some ({ k with xPendedTicks := (k.xPendedTicks + 1) % 2 ^ 32 }, false) := by
      unfold xTaskIncrementTick
      rw [if_neg hrunning]
    have hs : SameTasks k { k with xPendedTicks := (k.xPendedTicks + 1) % 2 ^ 32 } := by
      constructor <;> intros <;> rfl
    have hlt : (k.xPendedTicks + 1) % 2 ^ 32 < 2 ^ 32 := Nat.mod_lt _ (by decide)
    rw [heq]
    refine ⟨_, _, rfl, rfl,
      ⟨hs.core h.core h.core.base.top, ⟨hlt, fun h0 => absurd h0 hrunning⟩, h.preempts, h.running⟩,
      hs.woken.congr fun t => ⟨False.elim, fun ht => ?_⟩, rfl, ?_, Or.inl rfl⟩
    · have hlate := h.core.not_late ht.1
      omega
    · have hbound := h.settled.pended
      show ticks + (k.xPendedTicks + 1) % 2 ^ 32 + _ = _
      split_ifs with hfull
      · have hone := hfull.2
        omega
      · have hne : k.xPendedTicks + 1 ≠ 2 ^ 32 := fun heq => hfull ⟨hrunning, heq⟩
        omega

theorem replayTicks_spec (n : Nat) (h : Core idle alive ticks wake k) (hpre : Preempts creating k)
    (hrunning : k.uxSchedulerSuspended = 0) : ∃ k', replayTicks n k = some k' ∧
      Core idle alive (ticks + n) wake k' ∧ Preempts creating k' ∧
      Woken k k' (fun t => k.Delayed t ∧ wake t ≤ ticks + n) ∧ k'.uxSchedulerSuspended = 0 ∧
      k'.pxCurrentTCB = k.pxCurrentTCB := by
  induction n generalizing k ticks with
  | zero =>
      refine ⟨k, rfl, h, hpre, (Woken.refl k).congr fun t => ⟨False.elim, fun ht => ?_⟩, hrunning, rfl⟩
      have hlate := h.not_late ht.1
      omega
  | succ n ih =>
      obtain ⟨k₁, sw, heq, hcore, hticked, hsw⟩ := xTaskIncrementTick_core h hrunning
      rw [replayTicks, heq]
      generalize hk₂ : ({ k₁ with xYieldPending := k₁.xYieldPending || sw } : Kernel) = k₂
      have hs : SameTasks k₁ k₂ := by subst hk₂; constructor <;> intros <;> rfl
      have hcore₂ : Core idle alive (ticks + 1) wake k₂ := by subst hk₂; exact hs.core hcore hcore.base.top
      have hwoken := hticked.woken.same hs
      have hcurrent₂ : k₂.pxCurrentTCB = k.pxCurrentTCB := by subst hk₂; exact hticked.pxCurrentTCB
      have hpre₂ : Preempts creating k₂ := hpre.woken hwoken hcurrent₂ fun hfalse => by
        subst hk₂
        exact hsw (Bool.or_eq_false_iff.mp hfalse).2
      obtain ⟨k', heq', hcore', hpre', hwoken', hrunning', hcurrent'⟩ :=
        ih hcore₂ hpre₂ (by subst hk₂; exact hticked.uxSchedulerSuspended.trans hrunning)
      refine ⟨k', by subst hk₂; exact heq', ?_, hpre', (hwoken.trans hwoken').congr fun t => ?_, hrunning',
        hcurrent'.trans hcurrent₂⟩
      · rw [show ticks + (n + 1) = ticks + 1 + n by omega]
        exact hcore'
      · rw [hwoken.delayed_iff h.base hcore₂.base]
        constructor
        · rintro (⟨ht, hle⟩ | ⟨ht, hle⟩) <;> exact ⟨ht, by omega⟩
        · exact fun ⟨ht, hle⟩ => Or.inr ⟨ht, by omega⟩

end Ticks

section Resume

variable {idle t : Task} {alive : Task → Prop} {ticks : Nat} {wake : Task → Nat}
  {creating : Task → Option Task} {k k' : Kernel} {p : Task → Prop}

theorem Core.release (h : Core idle alive ticks wake k) (ht : k.Blocked t) :
    Core idle alive ticks wake (k.release t) ∧ Released k (k.release t) (· = t) := by
  have hreleased := release_released (t := t) h.base.wf
  have halive : alive t := by
    rcases ht with (ht | ht) | ht <;> exact h.known ht
  refine ⟨h.woken hreleased.woken ?_ (release_base h.base halive) (h.timed.released h.base hreleased) ?_, hreleased⟩
  · rintro u rfl
    exact ht
  · intro u hu
    have hbefore := h.unblocks u
    rw [hreleased.same.pxDelayedTaskList] at hu
    rw [hreleased.value, show (k.release t).xNextTaskUnblockTime = k.xNextTaskUnblockTime by simp [Kernel.release]]
    exact hbefore (hreleased.woken.inState h.base.delayed_ne.1 hu)

/-- **The first loop of `xTaskResumeAll`.** -/
theorem readyPending_spec {passes : Nat} (h : Core idle alive ticks wake k)
    (hpasses : (k.items .pendingReady).length < passes) : ∃ k', readyPending passes k = some k' ∧
      Core idle alive ticks wake k' ∧ Woken k k' (k.Waits · .pendingReady) ∧ SameControl k k' ∧
      (∀ t, ¬ k'.Waits t .pendingReady) ∧ (k'.xYieldPending = false → k.xYieldPending = false ∧
        ∀ t, k.Waits t .pendingReady → k.uxPriority t ≤ k.uxPriority k.pxCurrentTCB) := by
  induction passes generalizing k with
  | zero => exact absurd hpasses (Nat.not_lt_zero _)
  | succ passes ih =>
      rw [readyPending]
      cases hhead : (k.items .pendingReady).head? with
      | none =>
          have hempty : ∀ t, ¬ k.Waits t .pendingReady := by
            intro t ht
            have hmem := (h.base.wf.mem _ _).mpr ht
            rw [List.head?_eq_none_iff.mp hhead] at hmem
            cases hmem
          exact ⟨k, rfl, h, (Woken.refl k).congr fun t => ⟨False.elim, hempty t⟩, .rfl k, hempty,
            fun hyield => ⟨hyield, fun t ht => absurd ht (hempty t)⟩⟩
      | some x =>
          have hmem := List.mem_of_mem_head? hhead
          have hx := (h.base.wf.mem x _).mp hmem
          obtain ⟨t, rfl⟩ := h.base.kinds x _ hx
          dsimp only [Node.owner]
          rw [remove_state_event h.base]
          obtain ⟨hcore, hreleased⟩ := h.release (h.waiting t _ hx)
          have hlength := release_length h.base (Or.inr rfl) hmem (fun p heq => by cases heq)
          rw [← Kernel.release]
          generalize hk₁ : ({ k.release t with
            xYieldPending := (k.release t).xYieldPending ||
              (k.release t).uxPriority (k.release t).pxCurrentTCB ≤ (k.release t).uxPriority t } : Kernel) = k₁
          have hs : SameTasks (k.release t) k₁ := by subst hk₁; constructor <;> intros <;> rfl
          have hsame : SameControl k k₁ :=
            hreleased.same.trans (by subst hk₁; constructor <;> rfl)
          have hwoken := hreleased.woken.same hs
          have hcore₁ := hs.core hcore (by subst hk₁; exact hcore.base.top)
          obtain ⟨k', heq, hcore', hwoken', hsame', hempty, hyield⟩ := ih hcore₁ (by rw [hs.items]; omega)
          have hwaits : ∀ u, (u = t ∨ k₁.Waits u .pendingReady) ↔ k.Waits u .pendingReady := by
            intro u
            by_cases hu : u = t
            · subst hu
              exact ⟨fun _ => hx, fun _ => Or.inl rfl⟩
            · unfold Waits
              rw [or_iff_right hu, (hwoken.stayed u hu).2]
          refine ⟨k', heq, hcore', (hwoken.trans hwoken').congr hwaits, hsame.trans hsame', hempty, fun hfalse => ?_⟩
          obtain ⟨hbefore, hless⟩ := hyield hfalse
          subst hk₁
          obtain ⟨hbefore, hlow⟩ := Bool.or_eq_false_iff.mp hbefore
          rw [hreleased.yield] at hbefore
          rw [hsame.uxPriority, hsame.pxCurrentTCB] at hless
          rw [hreleased.same.uxPriority, hreleased.same.pxCurrentTCB] at hlow
          refine ⟨hbefore, fun u hu => ?_⟩
          rcases (hwaits u).mpr hu with rfl | hu
          · have hlt := of_decide_eq_false hlow
            omega
          · exact hless u hu

theorem Core.resetNextTaskUnblockTime (h : Core idle alive ticks wake k) :
    Core idle alive ticks wake k.prvResetNextTaskUnblockTime := by
  refine ⟨h.base.congr (fun _ => rfl) (fun _ => rfl) rfl rfl (Or.inl ⟨rfl, rfl⟩) h.base.top,
    ⟨h.timed.tick, h.timed.overflows, h.timed.delayed, h.timed.overflow⟩, fun t ht => ?_, h.idleReady, h.waiting,
    h.placed, h.priorities⟩
  have hmem : (.state t : Node) ∈ k.items k.pxDelayedTaskList := (h.base.wf.mem _ _).mpr ht
  have hsorted : k.SortedList k.pxDelayedTaskList := by
    refine h.base.sorted _ ?_
    rcases h.base.delayedLists with ⟨h1, _⟩ | ⟨h1, _⟩ <;> rw [h1] <;> trivial
  exact resetNextTaskUnblockTime_le hsorted hmem

/-- The first loop, and the tick of the next task to wake. -/
theorem readyPending_reset (h : Core idle alive ticks wake k) :
    ∃ k₁, readyPending ((k.items .pendingReady).length + 1) k = some k₁ ∧
      ∃ k', k' = (if k.items .pendingReady = [] then k₁ else k₁.prvResetNextTaskUnblockTime) ∧
        Core idle alive ticks wake k' ∧ Woken k k' (k.Waits · .pendingReady) ∧ SameControl k k' ∧
        (∀ t, ¬ k'.Waits t .pendingReady) ∧ (Preempts creating k → Preempts creating k') := by
  obtain ⟨k₁, heq, hcore, hwoken, hsame, hempty, hyield⟩ := readyPending_spec h (Nat.lt_succ_self _)
  refine ⟨k₁, heq, _, rfl, ?_⟩
  split_ifs
  · exact ⟨hcore, hwoken, hsame, hempty, fun hpre => hpre.woken hwoken hsame.pxCurrentTCB hyield⟩
  · have hwoken' : Woken k k₁.prvResetNextTaskUnblockTime (k.Waits · .pendingReady) :=
      ⟨hwoken.uxPriority, hwoken.left, hwoken.stayed, hwoken.waiters⟩
    exact ⟨hcore.resetNextTaskUnblockTime, hwoken', hsame.trans (by constructor <;> rfl), hempty,
      fun hpre => hpre.woken hwoken' hsame.pxCurrentTCB hyield⟩

/-- **`xTaskResumeAll`.** What was held back while the scheduler was suspended is made good: the tasks that became
    ready, and the ticks. -/
theorem xTaskResumeAll_spec (h : Inv idle alive ticks wake creating k) (hsuspended : k.uxSchedulerSuspended ≠ 0) :
    ∃ k' xAlreadyYielded ticks', k.xTaskResumeAll = some (k', xAlreadyYielded) ∧
      ticks' = (if k.uxSchedulerSuspended = 1 then ticks + k.xPendedTicks else ticks) ∧
      Inv idle alive ticks' wake creating k' ∧
      Woken k k' (fun t => k.uxSchedulerSuspended = 1 ∧ k.Waits t .pendingReady ∨
        k.Delayed t ∧ wake t ≤ ticks') ∧
      k'.uxSchedulerSuspended + 1 = k.uxSchedulerSuspended ∧
      ticks' + k'.xPendedTicks = ticks + k.xPendedTicks ∧ Dispatched k k' ∧
      (xAlreadyYielded = true → k'.Chosen) := by
  have hs₀ : SameTasks k { k with uxSchedulerSuspended := k.uxSchedulerSuspended - 1 } := by
    constructor <;> intros <;> rfl
  have hcore₀ := hs₀.core h.core h.core.base.top
  unfold xTaskResumeAll
  by_cases hrunning : k.uxSchedulerSuspended - 1 = 0
  · have hone : k.uxSchedulerSuspended = 1 := by omega
    dsimp only
    rw [if_pos hrunning, if_pos hone]
    generalize hk₀ : ({ k with uxSchedulerSuspended := k.uxSchedulerSuspended - 1 } : Kernel) = k₀
    rw [hk₀] at hs₀ hcore₀
    have hpre₀ : Preempts creating k₀ := by subst hk₀; exact h.preempts
    have hpended₀ : k₀.xPendedTicks = k.xPendedTicks := by subst hk₀; rfl
    have hrunning₀ : k₀.uxSchedulerSuspended = 0 := by subst hk₀; exact hrunning
    -- the tasks that became ready
    obtain ⟨k₁, heq₁, k₂, hk₂, hcore₂, hwoken₂, hsame₂, hempty₂, hpre₂⟩ := readyPending_reset hcore₀
    rw [heq₁]
    dsimp only
    rw [← hk₂, hsame₂.xPendedTicks, hpended₀]
    -- the ticks
    obtain ⟨k₃, heq₃, hcore₃, hpre₃, hwoken₃, hrunning₃, hcurrent₃⟩ :=
      replayTicks_spec k.xPendedTicks hcore₂ (hpre₂ hpre₀) (hsame₂.uxSchedulerSuspended.trans hrunning₀)
    rw [heq₃]
    dsimp only
    have hs₄ : SameTasks k₃ { k₃ with xPendedTicks := 0 } := by constructor <;> intros <;> rfl
    have hcore₄ := hs₄.core hcore₃ hcore₃.base.top
    have hset₄ : Settled { k₃ with xPendedTicks := 0 } :=
      ⟨Nat.pow_pos (by decide), fun _ => ⟨fun t ht => hempty₂ t (hwoken₃.waits ht).1, rfl⟩⟩
    have hcurrent : k₃.pxCurrentTCB = k.pxCurrentTCB :=
      hcurrent₃.trans (hsame₂.pxCurrentTCB.trans (by subst hk₀; rfl))
    have hrun₄ : alive k₃.pxCurrentTCB := hcurrent ▸ h.running
    have hdue : ∀ t, ((False ∨ k₀.Waits t .pendingReady) ∨ k₂.Delayed t ∧ wake t ≤ ticks + k.xPendedTicks) ↔
        (k.uxSchedulerSuspended = 1 ∧ k.Waits t .pendingReady ∨
          k.Delayed t ∧ wake t ≤ ticks + k.xPendedTicks) := by
      intro t
      have hdelayed := (hs₀.woken.trans hwoken₂).delayed_iff h.core.base hcore₂.base t
        (wake t ≤ ticks + k.xPendedTicks)
      rw [hdelayed, Waits, hs₀.pxContainer, or_iff_right id, and_iff_right hone]
      rfl
    have hwoken := (((hs₀.woken.trans hwoken₂).trans hwoken₃).congr hdue).same hs₄
    split_ifs with hyield
    · obtain ⟨k', heq', hinv, hs', hsusp', hpended', hdispatched, hchosen⟩ := hcore₄.switch creating hset₄ hrun₄
      rw [heq']
      refine ⟨k', _, _, rfl, rfl, hinv, hwoken.same hs', ?_, ?_, hdispatched.imp_left fun heq => heq.trans hcurrent,
        fun _ => hchosen hrunning₃⟩
      · rw [hsusp', hone]
        exact congrArg (· + 1) hrunning₃
      · rw [hpended']
        rfl
    · refine ⟨_, _, _, rfl, rfl, ⟨hcore₄, hset₄, hpre₃, hrun₄⟩, hwoken, ?_, rfl, Or.inl hcurrent,
        fun hyielded => by cases hyielded⟩
      rw [hone]
      exact congrArg (· + 1) hrunning₃
  · have hone : k.uxSchedulerSuspended ≠ 1 := by omega
    rw [if_neg hone]
    refine ⟨_, _, _, if_neg hrunning, rfl,
      ⟨hcore₀, ⟨h.settled.pended, fun h0 => absurd h0 hrunning⟩, h.preempts, h.running⟩,
      hs₀.woken.congr fun t => ⟨False.elim, ?_⟩, Nat.succ_pred_eq_of_ne_zero hsuspended, rfl, Or.inl rfl,
      fun hyielded => by cases hyielded⟩
    rintro (⟨heq, _⟩ | ⟨ht, hle⟩)
    · exact hone heq
    · have hlate := h.core.not_late ht
      omega

end Resume

end Kernel
end Freertos
end Obsw
