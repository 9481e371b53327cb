import Obsw.Freertos.TaskInvariant

/-!
# `Freertos.TaskCalls` — the calls that move one task

What each of them does to the task, that it leaves the others where they were (`Others`), and that it keeps the
invariant (`Inv`).
-/

namespace Obsw
namespace Freertos
namespace Kernel

/-- The other tasks are where they were. -/
structure Others (t : Task) (k k' : Kernel) : Prop where
  state : ∀ u, u ≠ t → k'.pxContainer (.state u) = k.pxContainer (.state u)
  event : ∀ u, u ≠ t → k'.pxContainer (.event u) = k.pxContainer (.event u)
  value : ∀ u, u ≠ t → k'.value (.state u) = k.value (.state u)
  uxPriority : ∀ u, u ≠ t → k'.uxPriority u = k.uxPriority u

section Moved

variable {idle t u : Task} {alive : Task → Prop} {ticks : Nat} {wake wake' : Task → Nat}
  {creating : Task → Option Task} {k k' k'' : Kernel} {n : ListName}

theorem Others.refl (t : Task) (k : Kernel) : Others t k k :=
  ⟨fun _ _ => rfl, fun _ _ => rfl, fun _ _ => rfl, fun _ _ => rfl⟩

theorem Others.trans (h : Others t k k') (h' : Others t k' k'') : Others t k k'' :=
  ⟨fun u hu => (h'.state u hu).trans (h.state u hu), fun u hu => (h'.event u hu).trans (h.event u hu),
    fun u hu => (h'.value u hu).trans (h.value u hu), fun u hu => (h'.uxPriority u hu).trans (h.uxPriority u hu)⟩

theorem SameTasks.others (h : SameTasks k k') (t : Task) : Others t k k' :=
  ⟨fun u _ => by rw [h.pxContainer], fun u _ => by rw [h.pxContainer], fun u _ => h.value _,
    fun u _ => by rw [h.uxPriority]⟩

theorem Released.others (h : Released k k' (· = t)) : Others t k k' :=
  ⟨fun u hu => (h.woken.stayed u hu).1, fun u hu => (h.woken.stayed u hu).2, fun _ _ => h.value _,
    fun u _ => by rw [h.woken.uxPriority]⟩

/-- An operation on an item of the task. -/
theorem Others.of_item {x : Node} (hx : x = .state t ∨ x = .event t) (hsame : SameControl k k')
    (hcontainer : ∀ y, y ≠ x → k'.pxContainer y = k.pxContainer y)
    (hvalue : ∀ u, u ≠ t → k'.value (.state u) = k.value (.state u)) : Others t k k' := by
  refine ⟨fun u hu => hcontainer _ ?_, fun u hu => hcontainer _ ?_, hvalue, fun u _ => by rw [hsame.uxPriority]⟩
  · rintro rfl
    rcases hx with heq | heq <;> cases heq
    exact hu rfl
  · rintro rfl
    rcases hx with heq | heq <;> cases heq
    exact hu rfl

theorem remove_others {x : Node} (hx : x = .state t ∨ x = .event t) : Others t k (k.remove x) :=
  .of_item hx (remove_same x) (fun y hy => by rw [remove_container, Function.update_of_ne hy])
    fun _ _ => remove_value

theorem insertEnd_others {x : Node} (hx : x = .state t ∨ x = .event t) : Others t k (k.insertEnd n x) :=
  .of_item hx (insertEnd_same x) (fun y hy => by rw [insertEnd_container, Function.update_of_ne hy])
    fun _ _ => rfl

theorem insert_others {x : Node} (hx : x = .state t ∨ x = .event t) : Others t k (k.insert n x) :=
  .of_item hx (insert_same x) (fun y hy => by rw [insert_container, Function.update_of_ne hy]) fun _ _ => rfl

theorem setValue_others (v : Nat) : Others t k (k.setValue (.state t) v) := by
  refine .of_item (Or.inl rfl) (setValue_same _ v) (fun _ _ => rfl) fun u hu => ?_
  rw [setValue_value, if_neg fun heq => hu (Node.state.inj heq)]

/-- One task has been moved. -/
theorem Core.moved (h : Core idle alive ticks wake k) (ho : Others t k k') (hsame : SameControl k k')
    (hbase : Base alive k') (hunblocks : Unblocks k') (ht : t ≠ idle) (hplaced : ∃ n, k'.InState t n)
    (hwaits : ∀ n, k'.Waits t n → k'.Blocked t) (hwake : ∀ u, u ≠ t → wake' u = wake u)
    (hdelayed : k'.InState t k'.pxDelayedTaskList → k'.value (.state t) = wake' t % 2 ^ 32 ∧
      ticks + 1 ≤ wake' t ∧ wake' t / 2 ^ 32 = ticks / 2 ^ 32)
    (hoverflow : k'.InState t k'.pxOverflowDelayedTaskList → k'.value (.state t) = wake' t % 2 ^ 32 ∧
      wake' t / 2 ^ 32 = ticks / 2 ^ 32 + 1) : Core idle alive ticks wake' k' := by
  refine ⟨hbase, ⟨?_, ?_, fun u hu => ?_, fun u hu => ?_⟩, hunblocks, ?_, fun u n hu => ?_, fun u hu => ?_, ?_⟩
  · exact hsame.xTickCount.trans h.timed.tick
  · exact hsame.xNumOfOverflows.trans h.timed.overflows
  · by_cases hut : u = t
    · subst hut
      exact hdelayed hu
    · rw [hsame.pxDelayedTaskList] at hu
      rw [hwake u hut, ho.value u hut]
      exact h.timed.delayed u ((ho.state u hut).symm.trans hu)
  · by_cases hut : u = t
    · subst hut
      exact hoverflow hu
    · rw [hsame.pxOverflowDelayedTaskList] at hu
      rw [hwake u hut, ho.value u hut]
      exact h.timed.overflow u ((ho.state u hut).symm.trans hu)
  · exact (ho.state idle ht.symm).trans h.idleReady
  · by_cases hut : u = t
    · subst hut
      exact hwaits n hu
    · have hblocked := h.waiting u n ((ho.event u hut).symm.trans hu)
      simp only [Blocked, h.base.delayed_iff, hbase.delayed_iff, InState, ho.state u hut] at hblocked ⊢
      exact hblocked
  · by_cases hut : u = t
    · subst hut
      exact hplaced
    · obtain ⟨n, hn⟩ := h.placed u hu
      exact ⟨n, (ho.state u hut).trans hn⟩
  · rw [hsame.uxPriority]
    exact h.priorities

/-- A task that is moved, and is not ready then, does not matter to the one that runs. -/
theorem Preempts.moved (hpre : Preempts creating k) (ho : Others t k k') (hsame : SameControl k k')
    (hyield : k'.xYieldPending = k.xYieldPending) (ht : ∀ p, ¬ k'.InState t (.ready p)) : Preempts creating k' := by
  intro hfalse u p hu hcreating
  rw [hsame.pxCurrentTCB] at hcreating ⊢
  rw [hsame.uxPriority]
  have hut : u ≠ t := by
    rintro rfl
    exact ht p hu
  exact hpre (hyield.symm.trans hfalse) u p ((ho.state u hut).symm.trans hu) hcreating

theorem Unblocks.moved (h : Unblocks k) (ho : Others t k k') (hsame : SameControl k k')
    (hle : k'.xNextTaskUnblockTime ≤ k.xNextTaskUnblockTime)
    (ht : k'.InState t k'.pxDelayedTaskList → k'.xNextTaskUnblockTime ≤ k'.value (.state t)) : Unblocks k' := by
  intro u hu
  by_cases hut : u = t
  · subst hut
    exact ht hu
  · rw [hsame.pxDelayedTaskList] at hu
    rw [ho.value u hut]
    exact hle.trans (h u ((ho.state u hut).symm.trans hu))

theorem Settled.moved (hset : Settled k) (ho : Others t k k') (hsame : SameControl k k')
    (ht : k.uxSchedulerSuspended = 0 → ¬ k'.Waits t .pendingReady) : Settled k' := by
  refine ⟨hsame.xPendedTicks ▸ hset.pended, fun h0 => ?_⟩
  rw [hsame.uxSchedulerSuspended] at h0
  obtain ⟨hnone, hzero⟩ := hset.running h0
  refine ⟨fun u hu => ?_, hsame.xPendedTicks.trans hzero⟩
  by_cases hut : u = t
  · subst hut
    exact ht h0 hu
  · exact hnone u ((ho.event u hut).symm.trans hu)

end Moved

section Delay

variable {idle t : Task} {alive : Task → Prop} {ticks : Nat} {wake : Task → Nat} {k k' : Kernel} {n : ListName}

/-- What moves the state item of a task from the list it is in to a list that is not for ready tasks. -/
structure Placed (t : Task) (n : ListName) (k k' : Kernel) : Prop where
  others : Others t k k'
  same : SameControl k k'
  yield : k'.xYieldPending = k.xYieldPending
  state : k'.InState t n
  event : k'.pxContainer (.event t) = k.pxContainer (.event t)
  waiters : ∀ e, (k'.items (.event e)).Sublist (k.items (.event e))

theorem remove_insertEnd_placed (h : Base alive k) (hn : ∀ e, n ≠ .event e) :
    Placed t n k ((k.remove (.state t)).insertEnd n (.state t)) := by
  refine ⟨(remove_others (Or.inl rfl)).trans (insertEnd_others (Or.inl rfl)),
    (remove_same _).trans (insertEnd_same _), remove_yield _, by simp [InState], by simp, fun e => ?_⟩
  rw [insertEnd_items, if_neg (hn e).symm, remove_items h.wf]
  exact List.erase_sublist

theorem remove_insert_placed (h : Base alive k) (hn : ∀ e, n ≠ .event e) (v : Nat) :
    Placed t n k (((k.remove (.state t)).setValue (.state t) v).insert n (.state t)) := by
  refine ⟨(remove_others (Or.inl rfl)).trans ((setValue_others v).trans (insert_others (Or.inl rfl))),
    (remove_same _).trans ((setValue_same _ v).trans (insert_same _)), remove_yield _, by simp [InState], by simp,
    fun e => ?_⟩
  rw [insert_items, if_neg (hn e).symm, setValue_items, remove_items h.wf]
  exact List.erase_sublist

theorem Placed.setUnblockTime (h : Placed t n k k') (v : Nat) :
    Placed t n k { k' with xNextTaskUnblockTime := v } :=
  ⟨⟨h.others.state, h.others.event, h.others.value, h.others.uxPriority⟩, h.same.trans (by constructor <;> rfl),
    h.yield, h.state, h.event, h.waiters⟩

/-- The delayed lists are for state items. -/
theorem Base.delayed_holds (h : Base alive k) (hn : n = k.pxDelayedTaskList ∨ n = k.pxOverflowDelayedTaskList)
    (t : Task) : n.Holds (.state t) ∧ ∀ e, n ≠ .event e := by
  rcases h.delayedLists with ⟨h1, h2⟩ | ⟨h1, h2⟩ <;> rw [h1, h2] at hn <;> rcases hn with rfl | rfl <;>
    exact ⟨⟨t, rfl⟩, fun e heq => by cases heq⟩

/-- **`prvAddCurrentTaskToDelayedList`.** The task that runs goes to the list for the tick at which it is to wake. -/
theorem addCurrentTaskToDelayedList_spec {xTicksToWait : Nat} (xCanBlockIndefinitely : Bool) (h : Base alive k)
    (htick : k.xTickCount = ticks % 2 ^ 32) (halive : alive k.pxCurrentTCB) (hunblocks : Unblocks k)
    (hpos : 0 < xTicksToWait) (hlt : xTicksToWait < 2 ^ 32) :
    let k' := k.prvAddCurrentTaskToDelayedList xTicksToWait xCanBlockIndefinitely
    Base alive k' ∧ Unblocks k' ∧
      (xTicksToWait = portMAX_DELAY ∧ xCanBlockIndefinitely = true ∧ Placed k.pxCurrentTCB .suspended k k' ∨
        ¬ (xTicksToWait = portMAX_DELAY ∧ xCanBlockIndefinitely = true) ∧
          k'.value (.state k.pxCurrentTCB) = (ticks + xTicksToWait) % 2 ^ 32 ∧
          (Placed k.pxCurrentTCB k.pxDelayedTaskList k k' ∧
              (ticks + xTicksToWait) / 2 ^ 32 = ticks / 2 ^ 32 ∨
            Placed k.pxCurrentTCB k.pxOverflowDelayedTaskList k k' ∧
              (ticks + xTicksToWait) / 2 ^ 32 = ticks / 2 ^ 32 + 1)) := by
  have hnone : (k.remove (.state k.pxCurrentTCB)).pxContainer (.state k.pxCurrentTCB) = none := by simp
  have hremoved := h.remove (.state k.pxCurrentTCB)
  obtain ⟨hdelayed, hoverflow, hne⟩ := h.delayed_ne
  intro k'
  by_cases hforever : xTicksToWait = portMAX_DELAY ∧ xCanBlockIndefinitely = true
  · -- suspended, without a time to wake at
    have hk' : k' = (k.remove (.state k.pxCurrentTCB)).insertEnd .suspended (.state k.pxCurrentTCB) :=
      if_pos hforever
    have hplaced : Placed k.pxCurrentTCB .suspended k k' :=
      hk' ▸ remove_insertEnd_placed h fun e heq => by cases heq
    have hbase : Base alive k' := hk' ▸ hremoved.insertEnd hnone ⟨_, rfl⟩ (fun p heq => by cases heq) id
      fun u hu => Node.state.inj hu ▸ halive
    refine ⟨hbase, ?_, Or.inl ⟨hforever.1, hforever.2, hplaced⟩⟩
    refine hunblocks.moved hplaced.others hplaced.same ?_ fun ht => ?_
    · rw [hk']
      exact (remove_unblock _).le
    · rcases h.delayedLists with ⟨h1, _⟩ | ⟨h1, _⟩ <;> rw [hplaced.same.pxDelayedTaskList, h1] at ht <;>
        cases hplaced.state.unique ht
  · have hwake : (k.xTickCount + xTicksToWait) % 2 ^ 32 = (ticks + xTicksToWait) % 2 ^ 32 := by
      rw [htick, Nat.mod_add_mod]
    have hset := hremoved.setValue hnone ((k.xTickCount + xTicksToWait) % 2 ^ 32)
    have hsame := (remove_same (k := k) (.state k.pxCurrentTCB)).trans
      (setValue_same (.state k.pxCurrentTCB) ((k.xTickCount + xTicksToWait) % 2 ^ 32))
    have hadd := fun n (hn : n = k.pxDelayedTaskList ∨ n = k.pxOverflowDelayedTaskList) =>
      remove_insert_placed (t := k.pxCurrentTCB) h (h.delayed_holds hn k.pxCurrentTCB).2
        ((k.xTickCount + xTicksToWait) % 2 ^ 32)
    have hbase := fun n (hn : n = k.pxDelayedTaskList ∨ n = k.pxOverflowDelayedTaskList)
        (hready : ∀ p, n ≠ .ready p) =>
      hset.insert hnone (h.delayed_holds hn k.pxCurrentTCB).1 hready fun u hu => Node.state.inj hu ▸ halive
    generalize hk₁ : (k.remove (.state k.pxCurrentTCB)).setValue (.state k.pxCurrentTCB)
      ((k.xTickCount + xTicksToWait) % 2 ^ 32) = k₁ at hset hsame hadd hbase
    have hvalue : ∀ n, (k₁.insert n (.state k.pxCurrentTCB)).value (.state k.pxCurrentTCB) =
        (ticks + xTicksToWait) % 2 ^ 32 := by
      intro n
      rw [insert_value, ← hk₁, setValue_value, if_pos rfl, hwake]
    have hnext : k₁.xNextTaskUnblockTime = k.xNextTaskUnblockTime := by
      rw [← hk₁]
      exact remove_unblock _
    have hk' : k' = if (k.xTickCount + xTicksToWait) % 2 ^ 32 < k.xTickCount then
        k₁.insert k₁.pxOverflowDelayedTaskList (.state k.pxCurrentTCB)
      else if (k.xTickCount + xTicksToWait) % 2 ^ 32 <
          (k₁.insert k₁.pxDelayedTaskList (.state k.pxCurrentTCB)).xNextTaskUnblockTime then
        { k₁.insert k₁.pxDelayedTaskList (.state k.pxCurrentTCB) with
          xNextTaskUnblockTime := (k.xTickCount + xTicksToWait) % 2 ^ 32 }
      else k₁.insert k₁.pxDelayedTaskList (.state k.pxCurrentTCB) := by
      subst hk₁
      exact if_neg hforever
    rw [hsame.pxDelayedTaskList, hsame.pxOverflowDelayedTaskList] at hk'
    rw [hwake, htick] at hk'
    by_cases hwrap : (ticks + xTicksToWait) % 2 ^ 32 < ticks % 2 ^ 32
    · -- it wakes behind the wrap
      rw [if_pos hwrap] at hk'
      have hplaced := hadd _ (Or.inr rfl)
      rw [← hk'] at hplaced
      refine ⟨hk' ▸ hbase _ (Or.inr rfl) hoverflow, ?_, Or.inr ⟨hforever, hk' ▸ hvalue _, Or.inr ⟨hplaced, by omega⟩⟩⟩
      refine hunblocks.moved hplaced.others hplaced.same (hk' ▸ hnext.le) fun ht => ?_
      rw [hplaced.same.pxDelayedTaskList] at ht
      exact absurd (hplaced.state.unique ht).symm hne
    · -- it wakes before the wrap; `v` is what the next unblock time becomes
      rw [if_neg hwrap] at hk'
      obtain ⟨v, hk', hnext', hvalue'⟩ : ∃ v, k' = { k₁.insert k.pxDelayedTaskList (.state k.pxCurrentTCB) with
          xNextTaskUnblockTime := v } ∧ v ≤ k.xNextTaskUnblockTime ∧ v ≤ (ticks + xTicksToWait) % 2 ^ 32 := by
        have heq : (k₁.insert k.pxDelayedTaskList (.state k.pxCurrentTCB)).xNextTaskUnblockTime =
          k.xNextTaskUnblockTime := hnext
        split_ifs at hk' with hsooner
        · exact ⟨_, hk', by omega, Nat.le_refl _⟩
        · exact ⟨_, hk', heq.le, by omega⟩
      have hplaced := (hadd _ (Or.inl rfl)).setUnblockTime v
      have hbase' : Base alive { k₁.insert k.pxDelayedTaskList (.state k.pxCurrentTCB) with
          xNextTaskUnblockTime := v } :=
        (hbase _ (Or.inl rfl) hdelayed).congr (fun _ => rfl) (fun _ => rfl) rfl rfl (Or.inl ⟨rfl, rfl⟩)
          (hbase _ (Or.inl rfl) hdelayed).top
      rw [← hk'] at hplaced hbase'
      have hval : k'.value (.state k.pxCurrentTCB) = (ticks + xTicksToWait) % 2 ^ 32 := hk' ▸ hvalue _
      refine ⟨hbase', ?_, Or.inr ⟨hforever, hval, Or.inl ⟨hplaced, by omega⟩⟩⟩
      refine hunblocks.moved hplaced.others hplaced.same (hk' ▸ hnext') fun _ => ?_
      rw [hval, hk']
      exact hvalue'

end Delay

section Calls

variable {idle t u : Task} {alive : Task → Prop} {ticks : Nat} {wake : Task → Nat}
  {creating : Task → Option Task} {k k₀ k' : Kernel}

/-- The task that runs goes to sleep, behind what has been done with its event item. -/
theorem Inv.block {xTicksToWait : Nat} (h : Inv idle alive ticks wake creating k) (xCanBlockIndefinitely : Bool)
    (hidle : k.pxCurrentTCB ≠ idle) (hbase : Base alive k₀)
    (ho : Others k.pxCurrentTCB k k₀) (hsame : SameControl k k₀) (hyield : k₀.xYieldPending = k.xYieldPending)
    (hunblocks : Unblocks k₀) (hevent : ¬ k₀.Waits k.pxCurrentTCB .pendingReady) (hpos : 0 < xTicksToWait)
    (hlt : xTicksToWait < 2 ^ 32) :
    let k' := k₀.prvAddCurrentTaskToDelayedList xTicksToWait xCanBlockIndefinitely
    Inv idle alive ticks (Function.update wake k.pxCurrentTCB (ticks + xTicksToWait)) creating k' ∧
      ∃ n, Placed k.pxCurrentTCB n k₀ k' ∧ SameControl k k' ∧
        (¬ (xTicksToWait = portMAX_DELAY ∧ xCanBlockIndefinitely = true) → k'.Delayed k.pxCurrentTCB) := by
  intro k'
  have hcurrent := hsame.pxCurrentTCB
  obtain ⟨hbase', hunblocks', hcases⟩ := addCurrentTaskToDelayedList_spec
    xCanBlockIndefinitely hbase (hsame.xTickCount.trans h.core.timed.tick)
    (hcurrent.symm ▸ h.running) hunblocks hpos hlt
  rw [hcurrent] at hcases
  obtain ⟨hdelayed₀, hoverflow₀, hne₀⟩ := hbase.delayed_ne
  -- the list it goes to is the one for its tick
  obtain ⟨n, hplaced, hnready, hblocked, hwaits, hd, ho'⟩ : ∃ n, Placed k.pxCurrentTCB n k₀ k' ∧
      (∀ p, n ≠ .ready p) ∧ k'.Blocked k.pxCurrentTCB ∧
      (¬ (xTicksToWait = portMAX_DELAY ∧ xCanBlockIndefinitely = true) → k'.Delayed k.pxCurrentTCB) ∧
      (k'.InState k.pxCurrentTCB k'.pxDelayedTaskList →
        k'.value (.state k.pxCurrentTCB) = (ticks + xTicksToWait) % 2 ^ 32 ∧ ticks + 1 ≤ ticks + xTicksToWait ∧
          (ticks + xTicksToWait) / 2 ^ 32 = ticks / 2 ^ 32) ∧
      (k'.InState k.pxCurrentTCB k'.pxOverflowDelayedTaskList →
        k'.value (.state k.pxCurrentTCB) = (ticks + xTicksToWait) % 2 ^ 32 ∧
          (ticks + xTicksToWait) / 2 ^ 32 = ticks / 2 ^ 32 + 1) := by
    rcases hcases with ⟨hmax, hcan, hplaced⟩ | ⟨hnot, hvalue, ⟨hplaced, hepoch⟩ | ⟨hplaced, hepoch⟩⟩
    · refine ⟨_, hplaced, (fun p heq => by cases heq), Or.inr hplaced.state, fun hn => absurd ⟨hmax, hcan⟩ hn,
        fun ht => ?_, fun ht => ?_⟩
      · rcases hbase'.delayedLists with ⟨h1, _⟩ | ⟨h1, _⟩ <;> cases (hplaced.state.unique ht).trans h1
      · rcases hbase'.delayedLists with ⟨_, h2⟩ | ⟨_, h2⟩ <;> cases (hplaced.state.unique ht).trans h2
    · have hdelayed : k'.InState k.pxCurrentTCB k'.pxDelayedTaskList := by
        rw [hplaced.same.pxDelayedTaskList]
        exact hplaced.state
      refine ⟨_, hplaced, hdelayed₀, Or.inl (Or.inl hdelayed), fun _ => Or.inl hdelayed,
        fun _ => ⟨hvalue, by omega, hepoch⟩, fun ht => ?_⟩
      exact absurd (hdelayed.unique ht) hbase'.delayed_ne.2.2
    · have hoverflow : k'.InState k.pxCurrentTCB k'.pxOverflowDelayedTaskList := by
        rw [hplaced.same.pxOverflowDelayedTaskList]
        exact hplaced.state
      refine ⟨_, hplaced, hoverflow₀, Or.inl (Or.inr hoverflow), fun _ => Or.inr hoverflow, fun ht => ?_,
        fun _ => ⟨hvalue, hepoch⟩⟩
      exact absurd (ht.unique hoverflow) hbase'.delayed_ne.2.2
  have hothers := ho.trans hplaced.others
  have hsame' := hsame.trans hplaced.same
  have hcore : Core idle alive ticks (Function.update wake k.pxCurrentTCB (ticks + xTicksToWait)) k' := by
    refine h.core.moved hothers hsame' hbase' hunblocks' hidle ⟨n, hplaced.state⟩ (fun _ _ => hblocked)
      (fun u hu => Function.update_of_ne hu _ _) ?_ ?_
    · rw [Function.update_self]
      exact hd
    · rw [Function.update_self]
      exact ho'
  refine ⟨⟨hcore, h.settled.moved hothers hsame' fun _ ht => hevent ?_, ?_, hsame'.pxCurrentTCB ▸ h.running⟩, n,
    hplaced, hsame', hwaits⟩
  · exact hplaced.event.symm.trans ht
  · refine h.preempts.moved hothers hsame' (hplaced.yield.trans hyield) fun p hp => ?_
    exact hnready p (hplaced.state.unique hp)

/-- **`prvAddCurrentTaskToDelayedList`**, as `vTaskDelay` calls it. -/
theorem delay_spec {xTicksToWait : Nat} (h : Inv idle alive ticks wake creating k) (hidle : k.pxCurrentTCB ≠ idle)
    {p : Nat} (hready : k.InState k.pxCurrentTCB (.ready p)) (hpos : 0 < xTicksToWait)
    (hlt : xTicksToWait < 2 ^ 32) :
    let k' := k.prvAddCurrentTaskToDelayedList xTicksToWait false
    Inv idle alive ticks (Function.update wake k.pxCurrentTCB (ticks + xTicksToWait)) creating k' ∧
      Others k.pxCurrentTCB k k' ∧ SameControl k k' ∧ k'.Delayed k.pxCurrentTCB ∧
      k'.pxContainer (.event k.pxCurrentTCB) = none ∧
      ∀ e, (k'.items (.event e)).Sublist (k.items (.event e)) := by
  have hnone := h.core.not_waits hready
  obtain ⟨hinv, n, hplaced, hsame, hdelayed⟩ := h.block false hidle h.core.base (.refl _ k) (.rfl k) rfl
    h.core.unblocks (fun ht => by rw [Waits, hnone] at ht; cases ht) hpos hlt
  exact ⟨hinv, hplaced.others, hsame, hdelayed (by simp), hplaced.event.trans hnone, hplaced.waiters⟩

/-- **`vTaskPlaceOnEventList`.** -/
theorem vTaskPlaceOnEventList_spec {pxEventList xTicksToWait : Nat} (h : Inv idle alive ticks wake creating k)
    (hidle : k.pxCurrentTCB ≠ idle) {p : Nat} (hready : k.InState k.pxCurrentTCB (.ready p))
    (hpos : 0 < xTicksToWait) (hlt : xTicksToWait < 2 ^ 32) :
    let k' := k.vTaskPlaceOnEventList pxEventList xTicksToWait
    Inv idle alive ticks (Function.update wake k.pxCurrentTCB (ticks + xTicksToWait)) creating k' ∧
      Others k.pxCurrentTCB k k' ∧ SameControl k k' ∧ k'.Waits k.pxCurrentTCB (.event pxEventList) ∧
      (xTicksToWait ≠ portMAX_DELAY → k'.Delayed k.pxCurrentTCB) ∧
      ∀ e, (k'.items (.event e)).Sublist
        ((k.insert (.event pxEventList) (.event k.pxCurrentTCB)).items (.event e)) := by
  have hnone := h.core.not_waits hready
  have hbase := h.core.base.insert (n := .event pxEventList) hnone ⟨_, rfl⟩ (fun p heq => by cases heq)
    fun u hu => by cases hu
  have ho : Others k.pxCurrentTCB k (k.insert (.event pxEventList) (.event k.pxCurrentTCB)) :=
    insert_others (Or.inr rfl)
  have hunblocks : Unblocks (k.insert (.event pxEventList) (.event k.pxCurrentTCB)) := by
    intro u hu
    refine h.core.unblocks u ?_
    have hstate := hu
    rw [InState, insert_container, Function.update_of_ne (fun heq => by cases heq)] at hstate
    exact hstate
  have hwaits : (k.insert (.event pxEventList) (.event k.pxCurrentTCB)).Waits k.pxCurrentTCB
      (.event pxEventList) := by
    simp [Waits]
  obtain ⟨hinv, n, hplaced, hsame, hdelayed⟩ := h.block true hidle hbase ho
    (insert_same _) rfl hunblocks (fun ht => by cases Option.some.inj (hwaits.symm.trans ht)) hpos hlt
  exact ⟨hinv, ho.trans hplaced.others, hsame, hplaced.event.trans hwaits,
    fun hne => hdelayed fun hmax => hne hmax.1, hplaced.waiters⟩

/-- The event item of a task goes to the tasks that become ready when the scheduler runs again. -/
def pend (k : Kernel) (t : Task) : Kernel := (k.remove (.event t)).insertEnd .pendingReady (.event t)

theorem Core.pend (h : Core idle alive ticks wake k) (ht : k.Blocked t) :
    Core idle alive ticks wake (k.pend t) ∧ Others t k (k.pend t) ∧ SameControl k (k.pend t) ∧
      (k.pend t).xYieldPending = k.xYieldPending ∧ (k.pend t).Waits t .pendingReady ∧
      (∀ u n, (k.pend t).InState u n ↔ k.InState u n) ∧
      ∀ e, ((k.pend t).items (.event e)).Sublist (k.items (.event e)) := by
  have ho : Others t k (k.pend t) := (remove_others (Or.inr rfl)).trans (insertEnd_others (Or.inr rfl))
  have hsame : SameControl k (k.pend t) := (remove_same _).trans (insertEnd_same _)
  have hstate : ∀ u n, (k.pend t).InState u n ↔ k.InState u n := fun u n => by simp [Kernel.pend, InState]
  have hvalue : ∀ x, (k.pend t).value x = k.value x := fun x => by simp [Kernel.pend]
  have hwaits : (k.pend t).Waits t .pendingReady := by simp [Kernel.pend, Waits]
  have hbase : Base alive (k.pend t) :=
    (h.base.remove (.event t)).insertEnd (by simp) ⟨t, rfl⟩ (fun p heq => by cases heq) id fun u hu => by cases hu
  have hnext : (k.pend t).xNextTaskUnblockTime = k.xNextTaskUnblockTime := remove_unblock _
  have hdelayed : ∀ u, (k.pend t).InState u (k.pend t).pxDelayedTaskList → k.InState u k.pxDelayedTaskList := by
    intro u hu
    rw [hsame.pxDelayedTaskList, hstate] at hu
    exact hu
  have hblocked : (k.pend t).Blocked t := by
    simp only [Blocked, h.base.delayed_iff, hbase.delayed_iff, hstate] at ht ⊢
    exact ht
  refine ⟨h.moved ho hsame hbase (fun u hu => ?_) ?_ ?_ (fun _ _ => hblocked) (fun _ _ => rfl) (fun hu => ?_)
    (fun hu => ?_), ho, hsame, remove_yield _, hwaits, hstate, fun e => ?_⟩
  · rw [hnext, hvalue]
    exact h.unblocks u (hdelayed u hu)
  · rintro rfl
    exact h.not_blocked h.idleReady ht
  · rcases ht with (ht | ht) | ht <;> exact ⟨_, (hstate t _).mpr ht⟩
  · rw [hvalue]
    exact h.timed.delayed t (hdelayed t hu)
  · rw [hsame.pxOverflowDelayedTaskList, hstate] at hu
    rw [hvalue]
    exact h.timed.overflow t hu
  · rw [Kernel.pend, insertEnd_items, if_neg (fun heq => by cases heq), remove_items h.base.wf]
    exact List.erase_sublist

/-- A yield is pended for a task of a higher priority. -/
theorem Core.yieldFor (h : Core idle alive ticks wake k) (hset : Settled k) (hrun : alive k.pxCurrentTCB)
    (hpre : k.uxPriority t ≤ k.uxPriority k.pxCurrentTCB → Preempts creating k) :
    ∃ k' b, (if k.uxPriority k.pxCurrentTCB < k.uxPriority t then
        (({ k with xYieldPending := true } : Kernel), true) else (k, false)) = (k', b) ∧
      Inv idle alive ticks wake creating k' ∧ SameTasks k k' ∧ SameControl k k' := by
  split_ifs with hlt
  · have hs : SameTasks k { k with xYieldPending := true } := by constructor <;> intros <;> rfl
    have hset' : Settled { k with xYieldPending := true } := ⟨hset.pended, hset.running⟩
    exact ⟨_, _, rfl, ⟨hs.core h h.base.top, hset', fun hfalse => (by cases hfalse), hrun⟩, hs,
      by constructor <;> rfl⟩
  · exact ⟨_, _, rfl, ⟨h, hset, hpre (by omega), hrun⟩, by constructor <;> intros <;> rfl, .rfl k⟩

/-- **`xTaskRemoveFromEventList`.** The first task of the list no longer waits: it is ready, or it will be when the
    scheduler runs again. -/
theorem xTaskRemoveFromEventList_spec {pxEventList : Nat} (h : Inv idle alive ticks wake creating k)
    (hne : k.items (.event pxEventList) ≠ []) : ∃ t k' xReturn,
      (k.items (.event pxEventList)).head? = some (.event t) ∧
      k.xTaskRemoveFromEventList pxEventList = some (k', xReturn) ∧ Inv idle alive ticks wake creating k' ∧
      Others t k k' ∧ SameControl k k' ∧
      (k.uxSchedulerSuspended = 0 → k'.InState t (.ready (k.uxPriority t)) ∧ k'.pxContainer (.event t) = none) ∧
      (k.uxSchedulerSuspended ≠ 0 → k'.Waits t .pendingReady) ∧
      ∀ e, (k'.items (.event e)).Sublist (k.items (.event e)) := by
  obtain ⟨x, hx⟩ : ∃ x, (k.items (.event pxEventList)).head? = some x := by
    cases hitems : k.items (.event pxEventList) with
    | nil => exact absurd hitems hne
    | cons x l => exact ⟨x, rfl⟩
  have hwaits := (h.core.base.wf.mem x _).mp (List.mem_of_mem_head? hx)
  obtain ⟨t, rfl⟩ := h.core.base.kinds x _ hwaits
  have hblocked := h.core.waiting t _ hwaits
  unfold xTaskRemoveFromEventList
  rw [hx, Option.map_some]
  dsimp only [Node.owner]
  rw [remove_state_event h.core.base, (remove_same (k := k) (.event t)).uxSchedulerSuspended]
  by_cases hrunning : k.uxSchedulerSuspended = 0
  · rw [if_pos hrunning, ← Kernel.release]
    obtain ⟨hcore, hreleased⟩ := h.core.release hblocked
    have hset := h.settled.woken hreleased.woken hreleased.same.uxSchedulerSuspended hreleased.same.xPendedTicks
    obtain ⟨k', b, heq, hinv, hs, hsame⟩ := hcore.yieldFor (t := t) hset
      (hreleased.same.pxCurrentTCB ▸ h.running) fun hle => by
      rw [hreleased.same.uxPriority, hreleased.same.pxCurrentTCB] at hle
      refine h.preempts.woken hreleased.woken hreleased.same.pxCurrentTCB fun hfalse => ⟨?_, ?_⟩
      · exact hreleased.yield.symm.trans hfalse
      · rintro u rfl
        exact hle
    have hwoken := hreleased.woken.same hs
    exact ⟨t, k', b, rfl, congrArg some heq, hinv, hreleased.others.trans (hs.others t), hreleased.same.trans hsame,
      fun _ => hwoken.left t rfl, fun hne => absurd hrunning hne, hwoken.waiters⟩
  · rw [if_neg hrunning, ← Kernel.pend]
    obtain ⟨hcore, ho, hsame, hyield, hpending, hstate, hwaiters⟩ := h.core.pend hblocked
    have hset := h.settled.moved ho hsame fun h0 => absurd h0 hrunning
    obtain ⟨k', b, heq, hinv, hs, hsame'⟩ := hcore.yieldFor (t := t) hset (hsame.pxCurrentTCB ▸ h.running) fun _ =>
      h.preempts.moved ho hsame hyield fun p hp => h.core.not_blocked ((hstate t _).mp hp) hblocked
    refine ⟨t, k', b, rfl, congrArg some heq, hinv, ho.trans (hs.others t), hsame.trans hsame',
      fun h0 => absurd h0 hrunning, fun _ => ?_, fun e => ?_⟩
    · rw [Waits, hs.pxContainer]
      exact hpending
    · rw [hs.items]
      exact hwaiters e

/-- **`vTaskSuspend`.** The task waits no longer, whatever it was waiting for. -/
theorem vTaskSuspend_spec (h : Inv idle alive ticks wake creating k) (hidle : t ≠ idle) (halive : alive t) :
    Inv idle alive ticks wake creating (k.vTaskSuspend t) ∧ Others t k (k.vTaskSuspend t) ∧
      SameControl k (k.vTaskSuspend t) ∧ (k.vTaskSuspend t).InState t .suspended ∧
      (k.vTaskSuspend t).pxContainer (.event t) = none ∧
      ∀ e, ((k.vTaskSuspend t).items (.event e)).Sublist (k.items (.event e)) := by
  have ho : Others t k (k.vTaskSuspend t) := (remove_others (Or.inl rfl)).trans
    ((remove_others (Or.inr rfl)).trans (insertEnd_others (Or.inl rfl)))
  have hsame : SameControl k (k.vTaskSuspend t) :=
    (remove_same _).trans ((remove_same _).trans (insertEnd_same _))
  have hstate : (k.vTaskSuspend t).InState t .suspended := by simp [vTaskSuspend, InState]
  have hevent : (k.vTaskSuspend t).pxContainer (.event t) = none := by simp [vTaskSuspend]
  have hbase : Base alive (k.vTaskSuspend t) := ((h.core.base.remove _).remove _).insertEnd (by simp) ⟨t, rfl⟩
    (fun p heq => by cases heq) id fun u hu => Node.state.inj hu ▸ halive
  have hnext : (k.vTaskSuspend t).xNextTaskUnblockTime = k.xNextTaskUnblockTime :=
    (remove_unblock _).trans (remove_unblock _)
  have hyield : (k.vTaskSuspend t).xYieldPending = k.xYieldPending := (remove_yield _).trans (remove_yield _)
  have hlists : (k.vTaskSuspend t).pxDelayedTaskList ≠ .suspended ∧
      (k.vTaskSuspend t).pxOverflowDelayedTaskList ≠ .suspended := by
    rcases hbase.delayedLists with ⟨h1, h2⟩ | ⟨h1, h2⟩ <;> rw [h1, h2] <;> simp
  have hcore : Core idle alive ticks wake (k.vTaskSuspend t) := by
    refine h.core.moved ho hsame hbase (h.core.unblocks.moved ho hsame hnext.le fun ht => ?_) hidle ⟨_, hstate⟩
      (fun _ _ => Or.inr hstate) (fun _ _ => rfl) (fun ht => ?_) fun ht => ?_
    · exact absurd (ht.unique hstate) hlists.1
    · exact absurd (ht.unique hstate) hlists.1
    · exact absurd (ht.unique hstate) hlists.2
  have hset : Settled (k.vTaskSuspend t) := h.settled.moved ho hsame fun _ ht => by
    rw [Waits, hevent] at ht
    cases ht
  have hpre : Preempts creating (k.vTaskSuspend t) :=
    h.preempts.moved ho hsame hyield fun p hp => by cases hp.unique hstate
  refine ⟨⟨hcore, hset, hpre, hsame.pxCurrentTCB ▸ h.running⟩, ho, hsame, hstate, hevent, fun e => ?_⟩
  rw [vTaskSuspend, insertEnd_items, if_neg (fun heq => by cases heq), remove_items h.core.base.wf.remove,
    remove_items h.core.base.wf]
  exact List.erase_sublist.trans List.erase_sublist

/-- A task that is suspended, and waits for no event, becomes ready. -/
theorem release_of_suspended (ht : k.prvTaskIsTaskSuspended t = true) :
    k.InState t .suspended ∧ (k.remove (.state t)).prvAddTaskToReadyList t = k.release t := by
  obtain ⟨hstate, hevent⟩ := of_decide_eq_true ht
  refine ⟨hstate, ?_⟩
  have hnone : (k.remove (.state t)).pxContainer (.event t) = none := by simp [hevent]
  rw [Kernel.release, remove_none hnone]

/-- **`vTaskResume`.** -/
theorem vTaskResume_spec (h : Inv idle alive ticks wake creating k) (t : Task) : ∃ k', k.vTaskResume t = some k' ∧
    Inv idle alive ticks wake creating k' ∧ Others t k k' ∧ (k' = k ∨ k.InState t .suspended) ∧
    Dispatched k k' ∧ k'.xPendedTicks = k.xPendedTicks ∧ k'.uxPriority = k.uxPriority ∧
    ∀ e, (k'.items (.event e)).Sublist (k.items (.event e)) := by
  unfold vTaskResume
  by_cases hcond : t ≠ k.pxCurrentTCB ∧ k.prvTaskIsTaskSuspended t = true
  · rw [if_pos hcond]
    obtain ⟨hstate, heq⟩ := release_of_suspended hcond.2
    dsimp only
    rw [heq]
    obtain ⟨hcore, hreleased⟩ := h.core.release (Or.inr hstate)
    have hset := h.settled.woken hreleased.woken hreleased.same.uxSchedulerSuspended hreleased.same.xPendedTicks
    split_ifs with hle
    · obtain ⟨k', hswitch, hinv, hs, _, hpended, hdispatched, _⟩ := hcore.switch creating hset
        (hreleased.same.pxCurrentTCB ▸ h.running)
      exact ⟨k', hswitch, hinv, hreleased.others.trans (hs.others t), Or.inr hstate,
        hdispatched.imp_left fun hcurrent => hcurrent.trans hreleased.same.pxCurrentTCB,
        hpended.trans hreleased.same.xPendedTicks, (hreleased.woken.same hs).uxPriority,
        (hreleased.woken.same hs).waiters⟩
    · rw [hreleased.same.uxPriority, hreleased.same.pxCurrentTCB] at hle
      have hpre : Preempts creating (k.release t) := h.preempts.woken hreleased.woken hreleased.same.pxCurrentTCB
        fun hfalse => ⟨hreleased.yield.symm.trans hfalse, fun u hu => by rw [hu]; omega⟩
      exact ⟨_, rfl, ⟨hcore, hset, hpre, hreleased.same.pxCurrentTCB ▸ h.running⟩, hreleased.others, Or.inr hstate,
        Or.inl hreleased.same.pxCurrentTCB, hreleased.same.xPendedTicks, hreleased.woken.uxPriority,
        hreleased.woken.waiters⟩
  · rw [if_neg hcond]
    exact ⟨k, rfl, h, .refl t k, Or.inl rfl, Or.inl rfl, rfl, rfl, fun _ => List.Sublist.refl _⟩

/-- **`xTaskResumeFromISR`.** -/
theorem xTaskResumeFromISR_spec (h : Inv idle alive ticks wake creating k) (t : Task) :
    Inv idle alive ticks wake creating (k.xTaskResumeFromISR t) ∧ Others t k (k.xTaskResumeFromISR t) ∧
      (k.xTaskResumeFromISR t = k ∨ k.InState t .suspended) ∧ SameControl k (k.xTaskResumeFromISR t) ∧
      ∀ e, ((k.xTaskResumeFromISR t).items (.event e)).Sublist (k.items (.event e)) := by
  unfold xTaskResumeFromISR
  split_ifs with hcond hrunning
  · obtain ⟨hstate, _⟩ := release_of_suspended hcond
    generalize hk₁ : ({ k with
      xYieldPending := k.xYieldPending || k.uxPriority k.pxCurrentTCB ≤ k.uxPriority t } : Kernel) = k₁
    have hs : SameTasks k k₁ := by subst hk₁; constructor <;> intros <;> rfl
    have hsame : SameControl k k₁ := by subst hk₁; constructor <;> rfl
    have hcore : Core idle alive ticks wake k₁ := hs.core h.core (by subst hk₁; exact h.core.base.top)
    have hstate₁ : k₁.InState t .suspended := (congrFun hs.pxContainer _).trans hstate
    obtain ⟨hcore', hreleased⟩ := hcore.release (Or.inr hstate₁)
    have heq : (k₁.remove (.state t)).prvAddTaskToReadyList t = k₁.release t := by
      refine (release_of_suspended ?_).2
      subst hk₁
      exact hcond
    have hwoken : Woken k (k₁.release t) (· = t) :=
      (hs.woken.trans hreleased.woken).congr fun _ => or_iff_right id
    have hsame' := hsame.trans hreleased.same
    have hpre : Preempts creating (k₁.release t) := by
      refine h.preempts.woken hwoken hsame'.pxCurrentTCB fun hfalse => ?_
      rw [hreleased.yield, ← hk₁] at hfalse
      obtain ⟨hyield, hlow⟩ := Bool.or_eq_false_iff.mp hfalse
      have hlt := of_decide_eq_false hlow
      refine ⟨hyield, ?_⟩
      rintro u rfl
      omega
    dsimp only
    rw [heq]
    exact ⟨⟨hcore', h.settled.woken hwoken hsame'.uxSchedulerSuspended hsame'.xPendedTicks, hpre,
      hsame'.pxCurrentTCB ▸ h.running⟩, (hs.others t).trans hreleased.others, Or.inr hstate, hsame', hwoken.waiters⟩
  · obtain ⟨hstate, hnone⟩ := of_decide_eq_true hcond
    have heq : k.insertEnd .pendingReady (.event t) = k.pend t := by rw [Kernel.pend, remove_none hnone]
    rw [heq]
    obtain ⟨hcore, ho, hsame, hyield, hpending, hstates, hwaiters⟩ := h.core.pend (Or.inr hstate)
    have hpre := h.preempts.moved ho hsame hyield fun p hp =>
      h.core.not_blocked ((hstates t _).mp hp) (Or.inr hstate)
    exact ⟨⟨hcore, h.settled.moved ho hsame fun h0 => absurd h0 hrunning, hpre, hsame.pxCurrentTCB ▸ h.running⟩, ho,
      Or.inr hstate, hsame, hwaiters⟩
  · exact ⟨h, .refl t k, Or.inl rfl, .rfl k, fun _ => List.Sublist.refl _⟩

theorem limitPriority_lt (uxPriority : Nat) : limitPriority uxPriority < configMAX_PRIORITIES := by
  unfold limitPriority configMAX_PRIORITIES
  split_ifs <;> omega

theorem xTaskCreate_priority (k : Kernel) (t : Task) (uxPriority : Nat) : (k.xTaskCreate t uxPriority).uxPriority =
    Function.update k.uxPriority t (limitPriority uxPriority) := rfl

theorem xTaskCreate_container (k : Kernel) (t : Task) (uxPriority : Nat) : (k.xTaskCreate t uxPriority).pxContainer =
    Function.update k.pxContainer (.state t) (some (.list (.ready (limitPriority uxPriority)))) := by
  rw [xTaskCreate, prvAddNewTaskToReadyList, addReady_container]
  exact congrArg (fun p => Function.update k.pxContainer (.state t) (some (.list (.ready p))))
    (Function.update_self _ _ _)

theorem Base.xTaskCreate (h : Base alive k) (uxPriority : Nat) (hstate : k.pxContainer (.state t) = none)
    (hevent : k.pxContainer (.event t) = none) : Base (fun u => u = t ∨ alive u) (k.xTaskCreate t uxPriority) := by
  have hne : ∀ {u n}, k.InState u n → u ≠ t := by
    rintro u n hu rfl
    rw [InState, hstate] at hu
    cases hu
  refine Base.addReady (k := k.prvInitialiseNewTask t uxPriority) ⟨⟨h.wf.mem, h.wf.nodup, h.wf.named⟩, h.kinds,
    h.delayedLists, fun n hn => ?_, fun u p hu => ?_, h.top, fun u hu => Or.inr (h.known u hu), fun u hu => ?_⟩
    hstate (Or.inl rfl)
  · exact (h.sorted n hn).setValue (h.wf.not_mem hevent n)
  · exact (Function.update_of_ne (hne hu) _ _).trans (h.ready u p hu)
  · show Function.update k.value (.event t) (configMAX_PRIORITIES - limitPriority uxPriority) (.event u) =
      configMAX_PRIORITIES - Function.update k.uxPriority t (limitPriority uxPriority) u
    by_cases hut : u = t
    · rw [hut, Function.update_self, Function.update_self]
    · rw [Function.update_of_ne hut, Function.update_of_ne fun heq => hut (Node.event.inj heq)]
      exact h.eventValue u (hu.resolve_left hut)

theorem xTaskCreate_others (uxPriority : Nat) : Others t k (k.xTaskCreate t uxPriority) := by
  refine ⟨fun u hu => ?_, fun u _ => ?_, fun u _ => ?_, fun u hu => ?_⟩
  · rw [xTaskCreate_container, Function.update_of_ne fun heq => hu (Node.state.inj heq)]
  · rw [xTaskCreate_container, Function.update_of_ne fun heq => by cases heq]
  · rw [xTaskCreate, prvAddNewTaskToReadyList, addReady_value, prvInitialiseNewTask, setValue_value,
      if_neg (fun heq => by cases heq)]
    rfl
  · rw [xTaskCreate_priority, Function.update_of_ne hu]

theorem Core.xTaskCreate (h : Core idle alive ticks wake k) (ht : ¬ alive t) (uxPriority : Nat) :
    Core idle (fun u => u = t ∨ alive u) ticks wake (k.xTaskCreate t uxPriority) ∧
      Others t k (k.xTaskCreate t uxPriority) ∧
      (k.xTaskCreate t uxPriority).pxContainer (.event t) = none := by
  have hstate : k.pxContainer (.state t) = none := by
    by_contra hne
    exact ht (h.base.known t hne)
  have hevent : k.pxContainer (.event t) = none := by
    cases hc : k.pxContainer (.event t) with
    | none => rfl
    | some e =>
        obtain ⟨n, rfl⟩ := h.base.wf.named _ e hc
        rcases h.waiting t n hc with (hb | hb) | hb <;> exact absurd (h.known hb) ht
  have hne : ∀ {u}, alive u → u ≠ t := by
    rintro u hu rfl
    exact ht hu
  have hbase := h.base.xTaskCreate uxPriority hstate hevent
  have ho := xTaskCreate_others (k := k) (t := t) uxPriority
  have hready : (k.xTaskCreate t uxPriority).InState t (.ready (limitPriority uxPriority)) := by
    rw [InState, xTaskCreate_container, Function.update_self]
  have hnone : (k.xTaskCreate t uxPriority).pxContainer (.event t) = none := by
    rw [xTaskCreate_container, Function.update_of_ne (fun heq => by cases heq)]
    exact hevent
  have hvalue : ∀ u, (k.xTaskCreate t uxPriority).value (.state u) = k.value (.state u) := by
    intro u
    rw [Kernel.xTaskCreate, prvAddNewTaskToReadyList, addReady_value, prvInitialiseNewTask, setValue_value,
      if_neg (fun heq => by cases heq)]
    rfl
  -- whoever is not ready is one of the others
  have hother : ∀ {u n}, (∀ p, n ≠ .ready p) → (k.xTaskCreate t uxPriority).InState u n → k.InState u n := by
    intro u n hn hu
    by_cases hut : u = t
    · subst hut
      exact absurd (hu.unique hready) (hn _)
    · exact (ho.state u hut).symm.trans hu
  obtain ⟨hdelayed_ne, hoverflow_ne, _⟩ := h.base.delayed_ne
  refine ⟨⟨hbase, ⟨h.timed.tick, h.timed.overflows, fun u hu => ?_, fun u hu => ?_⟩, fun u hu => ?_, ?_,
    fun u n hu => ?_, fun u hu => ?_, fun u hu => ?_⟩, ho, hnone⟩
  · rw [hvalue]
    exact h.timed.delayed u (hother hdelayed_ne hu)
  · rw [hvalue]
    exact h.timed.overflow u (hother hoverflow_ne hu)
  · rw [hvalue]
    exact h.unblocks u (hother hdelayed_ne hu)
  · exact (ho.state idle (hne (h.known h.idleReady))).trans h.idleReady
  · by_cases hut : u = t
    · rw [Waits, hut, hnone] at hu
      cases hu
    · have hblocked := h.waiting u n ((ho.event u hut).symm.trans hu)
      simp only [Blocked, h.base.delayed_iff, hbase.delayed_iff, InState, ho.state u hut] at hblocked ⊢
      exact hblocked
  · by_cases hut : u = t
    · rw [hut]
      exact ⟨_, hready⟩
    · obtain ⟨n, hn⟩ := h.placed u (hu.resolve_left hut)
      exact ⟨n, (ho.state u hut).trans hn⟩
  · rw [xTaskCreate_priority]
    by_cases hut : u = t
    · rw [hut, Function.update_self]
      exact limitPriority_lt uxPriority
    · rw [Function.update_of_ne hut]
      exact h.priorities u (hu.resolve_left hut)

/-- **`xTaskCreate`**, up to the end of the critical section. The task that runs has yet to look at the priority. -/
theorem xTaskCreate_spec (h : Inv idle alive ticks wake creating k) (ht : ¬ alive t) (uxPriority : Nat) :
    Inv idle (fun u => u = t ∨ alive u) ticks wake (Function.update creating t (some k.pxCurrentTCB))
        (k.xTaskCreate t uxPriority) ∧
      Others t k (k.xTaskCreate t uxPriority) ∧
      ∀ e, (k.xTaskCreate t uxPriority).items (.event e) = k.items (.event e) := by
  obtain ⟨hcore, ho, hnone⟩ := h.core.xTaskCreate ht uxPriority
  have hset : Settled (k.xTaskCreate t uxPriority) := by
    refine ⟨h.settled.pended, fun h0 => ?_⟩
    obtain ⟨hpending, hzero⟩ := h.settled.running h0
    refine ⟨fun u hu => ?_, hzero⟩
    by_cases hut : u = t
    · rw [Waits, hut, hnone] at hu
      cases hu
    · exact hpending u ((ho.event u hut).symm.trans hu)
  refine ⟨⟨hcore, hset, fun hfalse u q hu hcreating => ?_, Or.inr h.running⟩, ho, fun e => ?_⟩
  · have hut : u ≠ t := by
      rintro rfl
      exact hcreating (Function.update_self _ _ _)
    rw [Function.update_of_ne hut] at hcreating
    have hne : k.pxCurrentTCB ≠ t := by
      rintro heq
      exact ht (heq ▸ h.running)
    show q ≤ (k.xTaskCreate t uxPriority).uxPriority k.pxCurrentTCB
    rw [ho.uxPriority _ hne]
    exact h.preempts hfalse u q ((ho.state u hut).symm.trans hu) hcreating
  · exact insertEnd_items.trans (if_neg (show ListName.event e ≠ .ready _ by simp))

/-- **The yield behind `xTaskCreate`.** -/
theorem yieldToNewTask_spec (h : Inv idle alive ticks wake creating k) (t : Task) : ∃ k',
    k.yieldToNewTask t = some k' ∧ Inv idle alive ticks wake (Function.update creating t none) k' ∧
      SameTasks k k' ∧ k'.uxSchedulerSuspended = k.uxSchedulerSuspended ∧ k'.xPendedTicks = k.xPendedTicks ∧
      Dispatched k k' := by
  unfold yieldToNewTask
  split_ifs with hlt
  · obtain ⟨k', heq, hinv, hs, hsusp, hpended, hdispatched, _⟩ :=
      h.core.switch (Function.update creating t none) h.settled h.running
    exact ⟨k', heq, hinv, hs, hsusp, hpended, hdispatched⟩
  · refine ⟨k, rfl, ⟨h.core, h.settled, fun hfalse u p hu hcreating => ?_, h.running⟩,
      by constructor <;> intros <;> rfl, rfl, rfl, Or.inl rfl⟩
    by_cases hut : u = t
    · subst hut
      rw [← h.core.base.ready u p hu]
      exact Nat.not_lt.mp hlt
    · rw [Function.update_of_ne hut] at hcreating
      exact h.preempts hfalse u p hu hcreating

end Calls

end Kernel
end Freertos
end Obsw
