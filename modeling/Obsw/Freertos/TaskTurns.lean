import Obsw.Freertos.TaskMemory

/-!
# `Freertos.TaskTurns` — tasks of one priority take turns

A ready list is served in turn: a switch takes the task behind the index and moves the index there. Tasks that become
ready go in front of the index (`Arrivals`), so they pass no task but the one at the index, which is the last one that
was dispatched or, if that one has left the list, the one in front of it. What a call does to the ready lists is at
most this: tasks arrive and then the processor goes to the next task, or one task leaves.
-/

namespace Obsw
namespace Freertos
namespace Kernel

/-- The ready list of a priority, which is served in turn. -/
def turns (k : Kernel) (p : Nat) : Rounds Node := k.lists.rounds (.list (.ready p))

/-- Tasks become ready. -/
structure Arrivals (k k' : Kernel) : Prop where
  pxCurrentTCB : k'.pxCurrentTCB = k.pxCurrentTCB
  turns : ∀ p, ∃ new : List Node, new.Nodup ∧ (∀ x ∈ new, x ∉ (k.turns p).items) ∧
    k'.turns p = new.foldl Rounds.insertEnd (k.turns p)

/-- A task leaves the list that it is in. -/
structure Leaves (t : Task) (k k' : Kernel) : Prop where
  pxCurrentTCB : k'.pxCurrentTCB = k.pxCurrentTCB
  turns : ∀ p, k'.turns p = k.turns p ∨ k'.turns p = (k.turns p).remove (.state t)

/-- The processor goes to the next task of a list, if it goes to another at all. -/
inductive Switched (k k' : Kernel) : Prop
  | kept (hcurrent : k'.pxCurrentTCB = k.pxCurrentTCB) (hturns : ∀ p, k'.turns p = k.turns p)
  | next (q : Nat) (hhead : (k.turns q).order.head? = some (.state k'.pxCurrentTCB))
      (hnext : k'.turns q = (k.turns q).next) (hothers : ∀ p, p ≠ q → k'.turns p = k.turns p)

section Arrivals

variable {alive : Task → Prop} {k k' k'' : Kernel} {t : Task} {x : Node} {n : ListName} {p : Nat}

theorem Arrivals.of_turns (hcurrent : k'.pxCurrentTCB = k.pxCurrentTCB) (hturns : ∀ p, k'.turns p = k.turns p) :
    Arrivals k k' :=
  ⟨hcurrent, fun p => ⟨[], List.nodup_nil, fun _ hx => (by cases hx), hturns p⟩⟩

theorem Arrivals.trans (h : Arrivals k k') (h' : Arrivals k' k'') : Arrivals k k'' := by
  refine ⟨h'.pxCurrentTCB.trans h.pxCurrentTCB, fun p => ?_⟩
  obtain ⟨new, hnodup, hnew, heq⟩ := h.turns p
  obtain ⟨new', hnodup', hnew', heq'⟩ := h'.turns p
  have hitems : ∀ x, x ∈ (k'.turns p).items ↔ x ∈ new ∨ x ∈ (k.turns p).items := by
    intro x
    rw [heq, (Rounds.items_foldl_insertEnd_perm _ new).mem_iff, List.mem_append]
  refine ⟨new ++ new', ?_, fun x hx => ?_, ?_⟩
  · refine List.nodup_append.mpr ⟨hnodup, hnodup', fun x hx y hy heq => ?_⟩
    exact hnew' y hy ((hitems y).mpr (Or.inl (heq ▸ hx)))
  · rcases List.mem_append.mp hx with hx | hx
    · exact hnew x hx
    · exact fun hmem => hnew' x hx ((hitems x).mpr (Or.inr hmem))
  · rw [heq', heq, List.foldl_append]

theorem turns_insertEnd : (k.insertEnd n x).turns p =
    if .ready p = n then (k.turns p).insertEnd x else k.turns p := by
  simp only [turns, insertEnd, Contents.call, Function.update_apply, Node.list.injEq]
  split_ifs with hn
  · rw [hn]
  · rfl

theorem turns_insert (hn : ∀ p, n ≠ .ready p) : (k.insert n x).turns p = k.turns p := by
  have hne : (.list (.ready p) : Node) ≠ .list n := fun heq => hn p (Node.list.inj heq).symm
  exact Function.update_of_ne hne _ _

/-- An item that is taken out of another list leaves the ready list as it was. -/
theorem turns_remove (hx : k.pxContainer x ≠ some (.list (.ready p))) : (k.remove x).turns p = k.turns p := by
  cases hc : k.pxContainer x with
  | none => rw [remove_none hc]
  | some e =>
      rw [remove_some hc]
      refine Function.update_of_ne (fun heq => hx ?_) _ _
      rw [hc, heq]

theorem turns_remove_or : (k.remove x).turns p = k.turns p ∨ (k.remove x).turns p = (k.turns p).remove x := by
  by_cases hx : k.pxContainer x = some (.list (.ready p))
  · rw [remove_some hx]
    exact Or.inr (Function.update_self _ _ _)
  · exact Or.inl (turns_remove hx)

theorem arrivals_addReady (h : k.Wf) (ht : k.pxContainer (.state t) = none) :
    Arrivals k (k.prvAddTaskToReadyList t) := by
  refine ⟨rfl, fun p => ?_⟩
  have hturns : (k.prvAddTaskToReadyList t).turns p =
      if .ready p = ListName.ready (k.uxPriority t) then (k.turns p).insertEnd (.state t) else k.turns p :=
    turns_insertEnd
  rw [hturns]
  split_ifs
  · refine ⟨[.state t], List.nodup_singleton _, fun x hx => ?_, rfl⟩
    rw [List.mem_singleton.mp hx]
    exact h.not_mem ht _
  · exact ⟨[], List.nodup_nil, fun _ hx => (by cases hx), rfl⟩

/-- An event item is in no ready list. -/
theorem Base.event_not_ready (h : Base alive k) : k.pxContainer (.event t) ≠ some (.list (.ready p)) := by
  intro heq
  obtain ⟨u, hu⟩ := h.kinds _ _ heq
  cases hu

/-- A task that was not ready becomes so. -/
theorem arrivals_release (h : Base alive k) (ht : ∀ p, ¬ k.InState t (.ready p)) : Arrivals k (k.release t) := by
  have hout : Arrivals k ((k.remove (.state t)).remove (.event t)) := by
    refine .of_turns ?_ fun p => ?_
    · rw [(remove_same _).pxCurrentTCB, (remove_same _).pxCurrentTCB]
    · rw [turns_remove (h.remove _).event_not_ready, turns_remove (ht p)]
  exact hout.trans (arrivals_addReady ((h.remove _).remove _).wf (by simp))

end Arrivals

section Calls

variable {idle : Task} {alive : Task → Prop} {ticks : Nat} {wake : Task → Nat} {creating : Task → Option Task}
  {k k' : Kernel} {t : Task}

theorem arrivals_unblockDue {xConstTickCount passes : Nat} {sw sw' : Bool} (h : Base alive k)
    (heq : unblockDue xConstTickCount passes k sw = some (k', sw')) : Arrivals k k' := by
  induction passes generalizing k sw with
  | zero => cases heq
  | succ passes ih =>
      rw [unblockDue] at heq
      cases hhead : (k.items k.pxDelayedTaskList).head? with
      | none =>
          rw [hhead] at heq
          cases heq
          exact .of_turns rfl fun _ => rfl
      | some x =>
          obtain ⟨t, rfl, ht⟩ := h.head_state hhead
          rw [hhead] at heq
          dsimp only [Node.owner] at heq
          split_ifs at heq
          · cases heq
            exact .of_turns rfl fun _ => rfl
          · have hstate : ∀ p, ¬ k.InState t (.ready p) := fun p hp => h.delayed_ne.1 p (ht.unique hp)
            have halive : alive t := h.known t fun hnone => by
              rw [InState, hnone] at ht
              cases ht
            exact (arrivals_release h hstate).trans (ih (release_base h halive) heq)

theorem arrivals_incrementTick {sw : Bool} (h : Base alive k) (heq : k.xTaskIncrementTick = some (k', sw)) :
    Arrivals k k' := by
  unfold xTaskIncrementTick at heq
  split_ifs at heq with hrunning
  · dsimp only at heq
    generalize hk₁ : (if (k.xTickCount + 1) % 2 ^ 32 = 0 then
      ({ k with xTickCount := (k.xTickCount + 1) % 2 ^ 32 } : Kernel).switchDelayedLists
      else { k with xTickCount := (k.xTickCount + 1) % 2 ^ 32 }) = k₁ at heq
    have hadvance : Arrivals k k₁ ∧ Base alive k₁ := by
      subst hk₁
      split_ifs
      · exact ⟨.of_turns rfl fun _ => rfl,
          h.congr (fun _ => rfl) (fun _ => rfl) rfl rfl (Or.inr ⟨rfl, rfl⟩) h.top⟩
      · exact ⟨.of_turns rfl fun _ => rfl,
          h.congr (fun _ => rfl) (fun _ => rfl) rfl rfl (Or.inl ⟨rfl, rfl⟩) h.top⟩
    obtain ⟨⟨k₂, sw₂⟩, hloop, hpair⟩ := Option.map_eq_some_iff.mp heq
    cases hpair
    split_ifs at hloop
    · exact hadvance.1.trans (arrivals_unblockDue hadvance.2 hloop)
    · cases hloop
      exact hadvance.1
  · cases heq
    exact .of_turns rfl fun _ => rfl

/-- A task that waits is not ready. -/
theorem Core.not_ready (h : Core idle alive ticks wake k) (ht : k.Blocked t) (p : Nat) : ¬ k.InState t (.ready p) :=
  fun hp => h.not_blocked hp ht

theorem arrivals_readyPending {passes : Nat} (h : Core idle alive ticks wake k)
    (heq : readyPending passes k = some k') : Arrivals k k' := by
  induction passes generalizing k with
  | zero => cases heq
  | succ passes ih =>
      rw [readyPending] at heq
      cases hhead : (k.items .pendingReady).head? with
      | none =>
          rw [hhead] at heq
          cases heq
          exact .of_turns rfl fun _ => rfl
      | some x =>
          have hx := (h.base.wf.mem x _).mp (List.mem_of_mem_head? hhead)
          obtain ⟨t, rfl⟩ := h.base.kinds x _ hx
          have hblocked := h.waiting t _ hx
          rw [hhead] at heq
          dsimp only [Node.owner] at heq
          rw [remove_state_event h.base, ← Kernel.release] at heq
          refine (arrivals_release h.base (h.not_ready hblocked)).trans (Arrivals.trans ?_ (ih ?_ heq))
          · exact .of_turns rfl fun _ => rfl
          · have hs : SameTasks (k.release t) { k.release t with
                xYieldPending := (k.release t).xYieldPending ||
                  (k.release t).uxPriority (k.release t).pxCurrentTCB ≤ (k.release t).uxPriority t } := by
              constructor <;> intros <;> rfl
            exact hs.core (h.release hblocked).1 (h.release hblocked).1.base.top

theorem arrivals_replayTicks {n : Nat} (h : Core idle alive ticks wake k) (hrunning : k.uxSchedulerSuspended = 0)
    (heq : replayTicks n k = some k') : Arrivals k k' := by
  induction n generalizing k ticks with
  | zero =>
      cases heq
      exact .of_turns rfl fun _ => rfl
  | succ n ih =>
      obtain ⟨k₁, sw, htick, hcore, hticked, _⟩ := xTaskIncrementTick_core h hrunning
      rw [replayTicks, htick] at heq
      have hs : SameTasks k₁ { k₁ with xYieldPending := k₁.xYieldPending || sw } := by
        constructor <;> intros <;> rfl
      have hcore₂ := hs.core hcore hcore.base.top
      have hrest := ih hcore₂ (hticked.uxSchedulerSuspended.trans hrunning) heq
      have hyield : Arrivals k₁ { k₁ with xYieldPending := k₁.xYieldPending || sw } := .of_turns rfl fun _ => rfl
      exact (arrivals_incrementTick h.base htick).trans (hyield.trans hrest)

/-- What a call does that ends with a switch. -/
def Turned (k k' : Kernel) : Prop := ∃ k₁, Arrivals k k₁ ∧ Switched k₁ k'

theorem Arrivals.turned (h : Arrivals k k') : Turned k k' := ⟨k', h, .kept rfl fun _ => rfl⟩

theorem switched_switch (h : Base alive k) (heq : k.vTaskSwitchContext = some k') : Switched k k' := by
  unfold vTaskSwitchContext at heq
  split_ifs at heq
  · cases heq
    exact .kept rfl fun _ => rfl
  · obtain ⟨q, hq, rfl⟩ := Option.map_eq_some_iff.mp heq
    -- the list that is taken is not empty
    have hitems : k.items (.ready q) ≠ [] := highestReady_items hq
    obtain ⟨x, hx⟩ : ∃ x, (k.turns q).order.head? = some x := by
      cases horder : (k.turns q).order with
      | nil => exact absurd (List.Perm.nil_eq (horder ▸ Rounds.order_perm (k.turns q))).symm hitems
      | cons x l => exact ⟨x, rfl⟩
    have hmem : x ∈ k.items (.ready q) := (Rounds.order_perm (k.turns q)).mem_iff.mp (List.mem_of_mem_head? hx)
    obtain ⟨u, rfl⟩ := h.kinds x _ ((h.wf.mem x _).mp hmem)
    refine .next q ?_ ?_ fun p hp => ?_
    · rw [hx]
      show _ = some (Node.state (((k.turns q).order.head?.getD _).owner))
      rw [hx]
      rfl
    · exact Function.update_self _ _ _
    · exact Function.update_of_ne (fun heq => hp (ListName.ready.inj (Node.list.inj heq))) _ _

theorem Arrivals.switch {k₁ : Kernel} (h : Arrivals k k₁) (hbase : Base alive k₁)
    (heq : k₁.vTaskSwitchContext = some k') : Turned k k' := ⟨k₁, h, switched_switch hbase heq⟩

theorem turned_tickISR (h : Inv idle alive ticks wake creating k) (heq : k.vPortTickISR = some k') : Turned k k' := by
  unfold vPortTickISR at heq
  split at heq
  · cases heq
  · rename_i k₁ sw htick
    have harrived := arrivals_incrementTick h.core.base htick
    split_ifs at heq with hsw
    · by_cases hrunning : k.uxSchedulerSuspended = 0
      · obtain ⟨k₂, sw₂, htick₂, hcore₂, _⟩ := xTaskIncrementTick_core h.core hrunning
        rw [htick, Option.some.injEq, Prod.mk.injEq] at htick₂
        obtain ⟨rfl, rfl⟩ := htick₂
        exact harrived.switch hcore₂.base heq
      · -- a tick that is pended asks for no switch
        rw [xTaskIncrementTick, if_neg hrunning] at htick
        cases htick
        cases hsw
    · cases heq
      exact harrived.turned

theorem turned_resumeAll {b : Bool} (h : Inv idle alive ticks wake creating k)
    (heq : k.xTaskResumeAll = some (k', b)) : Turned k k' := by
  have hs₀ : SameTasks k { k with uxSchedulerSuspended := k.uxSchedulerSuspended - 1 } := by
    constructor <;> intros <;> rfl
  have hcore₀ := hs₀.core h.core h.core.base.top
  unfold xTaskResumeAll at heq
  dsimp only at heq
  by_cases hrunning : k.uxSchedulerSuspended - 1 = 0
  · rw [if_pos hrunning] at heq
    generalize hk₀ : ({ k with uxSchedulerSuspended := k.uxSchedulerSuspended - 1 } : Kernel) = k₀
      at heq hs₀ hcore₀
    have hpre₀ : Preempts creating k₀ := by subst hk₀; exact h.preempts
    have hrunning₀ : k₀.uxSchedulerSuspended = 0 := by subst hk₀; exact hrunning
    have harrived₀ : Arrivals k k₀ := by subst hk₀; exact .of_turns rfl fun _ => rfl
    -- the tasks that became ready
    obtain ⟨k₁, heq₁, k₂, hk₂, hcore₂, _, hsame₂, _, hpre₂⟩ := readyPending_reset hcore₀
    rw [heq₁] at heq
    dsimp only at heq
    rw [← hk₂] at heq
    have harrived₂ : Arrivals k₁ k₂ := by
      rw [hk₂]
      split_ifs <;> exact .of_turns rfl fun _ => rfl
    -- the ticks
    have hrunning₂ := hsame₂.uxSchedulerSuspended.trans hrunning₀
    obtain ⟨k₃, heq₃, hcore₃, _⟩ := replayTicks_spec k₂.xPendedTicks hcore₂ (hpre₂ hpre₀) hrunning₂
    rw [heq₃] at heq
    dsimp only at heq
    have hs₄ : SameTasks k₃ { k₃ with xPendedTicks := 0 } := by constructor <;> intros <;> rfl
    have harrived₄ : Arrivals k₃ { k₃ with xPendedTicks := 0 } := .of_turns rfl fun _ => rfl
    have harrived := (((harrived₀.trans (arrivals_readyPending hcore₀ heq₁)).trans harrived₂).trans
      (arrivals_replayTicks hcore₂ hrunning₂ heq₃)).trans harrived₄
    split_ifs at heq
    · obtain ⟨k₅, hswitch, hpair⟩ := Option.map_eq_some_iff.mp heq
      cases hpair
      exact harrived.switch (hs₄.core hcore₃ hcore₃.base.top).base hswitch
    · cases heq
      exact harrived.turned
  · rw [if_neg hrunning] at heq
    cases heq
    exact Arrivals.turned (.of_turns rfl fun _ => rfl)

theorem arrivals_removeFromEventList {pxEventList : Nat} {b : Bool} (h : Inv idle alive ticks wake creating k)
    (heq : k.xTaskRemoveFromEventList pxEventList = some (k', b)) : Arrivals k k' := by
  obtain ⟨x, hhead, heq⟩ := Option.map_eq_some_iff.mp heq
  have hx := (h.core.base.wf.mem x _).mp (List.mem_of_mem_head? hhead)
  obtain ⟨t, rfl⟩ := h.core.base.kinds x _ hx
  have hblocked := h.core.waiting t _ hx
  dsimp only [Node.owner] at heq
  rw [remove_state_event h.core.base, ← Kernel.release] at heq
  generalize hk₂ : (if (k.remove (.event t)).uxSchedulerSuspended = 0 then k.release t
    else (k.remove (.event t)).insertEnd .pendingReady (.event t)) = k₂ at heq
  have hmoved : Arrivals k k₂ := by
    subst hk₂
    split_ifs
    · exact arrivals_release h.core.base (h.core.not_ready hblocked)
    · refine .of_turns (remove_same _).pxCurrentTCB fun p => ?_
      rw [turns_insertEnd, if_neg (fun hn => by cases hn), turns_remove h.core.base.event_not_ready]
  split_ifs at heq <;> cases heq
  · exact hmoved.trans (.of_turns rfl fun _ => rfl)
  · exact hmoved

theorem turned_resume (h : Inv idle alive ticks wake creating k) (heq : k.vTaskResume t = some k') : Turned k k' := by
  unfold vTaskResume at heq
  split_ifs at heq with hcond
  · obtain ⟨hstate, hrelease⟩ := release_of_suspended hcond.2
    have hblocked : k.Blocked t := Or.inr hstate
    have harrived := arrivals_release h.core.base (h.core.not_ready hblocked)
    rw [hrelease] at heq
    dsimp only at heq
    split_ifs at heq
    · exact harrived.switch (h.core.release hblocked).1.base heq
    · cases heq
      exact harrived.turned
  · cases heq
    exact Arrivals.turned (.of_turns rfl fun _ => rfl)

theorem arrivals_resumeFromISR (h : Inv idle alive ticks wake creating k) (t : Task) :
    Arrivals k (k.xTaskResumeFromISR t) := by
  unfold xTaskResumeFromISR
  split_ifs with hcond hrunning
  · obtain ⟨hstate, hrelease⟩ := release_of_suspended hcond
    have harrived := arrivals_release h.core.base (h.core.not_ready (Or.inr hstate))
    rw [← hrelease] at harrived
    refine harrived.trans (.of_turns ?_ fun p => ?_)
    all_goals simp only [remove]; cases k.pxContainer (.state t) <;> rfl
  · refine .of_turns rfl fun p => ?_
    rw [turns_insertEnd, if_neg fun hn => by cases hn]
  · exact .of_turns rfl fun _ => rfl

theorem arrivals_create (h : Inv idle alive ticks wake creating k) (ht : ¬ alive t) (uxPriority : Nat) :
    Arrivals k (k.xTaskCreate t uxPriority) := by
  have hstate : k.pxContainer (.state t) = none := by
    by_contra hne
    exact ht (h.core.base.known t hne)
  have hwf : (k.prvInitialiseNewTask t uxPriority).Wf :=
    ⟨h.core.base.wf.mem, h.core.base.wf.nodup, h.core.base.wf.named⟩
  have hinitialised : Arrivals k (k.prvInitialiseNewTask t uxPriority) := .of_turns rfl fun _ => rfl
  exact hinitialised.trans (arrivals_addReady hwf hstate)

theorem turned_yieldToNewTask (h : Inv idle alive ticks wake creating k) (heq : k.yieldToNewTask t = some k') :
    Turned k k' := by
  have hsame : Arrivals k k := .of_turns rfl fun _ => rfl
  unfold yieldToNewTask at heq
  split_ifs at heq
  · exact hsame.switch h.core.base heq
  · cases heq
    exact hsame.turned

theorem leaves_delay (hdelayed : ∀ p, k.pxDelayedTaskList ≠ .ready p)
    (hoverflow : ∀ p, k.pxOverflowDelayedTaskList ≠ .ready p) (xTicksToWait : Nat)
    (xCanBlockIndefinitely : Bool) :
    Leaves k.pxCurrentTCB k (k.prvAddCurrentTaskToDelayedList xTicksToWait xCanBlockIndefinitely) := by
  have hcurrent : (k.remove (.state k.pxCurrentTCB)).pxCurrentTCB = k.pxCurrentTCB := (remove_same _).pxCurrentTCB
  rw [← (remove_same (.state k.pxCurrentTCB)).pxDelayedTaskList] at hdelayed
  rw [← (remove_same (.state k.pxCurrentTCB)).pxOverflowDelayedTaskList] at hoverflow
  have hturns : ∀ p, (k.remove (.state k.pxCurrentTCB)).turns p = k.turns p ∨
      (k.remove (.state k.pxCurrentTCB)).turns p = (k.turns p).remove (.state k.pxCurrentTCB) :=
    fun p => turns_remove_or
  unfold prvAddCurrentTaskToDelayedList
  dsimp only
  split_ifs
  · refine ⟨hcurrent, fun p => ?_⟩
    rw [turns_insertEnd, if_neg fun hn => by cases hn]
    exact hturns p
  · exact ⟨hcurrent, fun p => (turns_insert hoverflow).symm ▸ hturns p⟩
  · exact ⟨hcurrent, fun p => (turns_insert hdelayed).symm ▸ hturns p⟩
  · exact ⟨hcurrent, fun p => (turns_insert hdelayed).symm ▸ hturns p⟩

theorem leaves_suspend (h : Base alive k) (t : Task) : Leaves t k (k.vTaskSuspend t) := by
  refine ⟨?_, fun p => ?_⟩
  · show ((k.remove (.state t)).remove (.event t)).pxCurrentTCB = _
    rw [(remove_same _).pxCurrentTCB, (remove_same _).pxCurrentTCB]
  · rw [vTaskSuspend, turns_insertEnd, if_neg (fun hn => by cases hn), turns_remove (h.remove _).event_not_ready]
    exact turns_remove_or

theorem leaves_placeOnEventList (h : Base alive k) (pxEventList xTicksToWait : Nat) :
    Leaves k.pxCurrentTCB k (k.vTaskPlaceOnEventList pxEventList xTicksToWait) := by
  have hturns : ∀ p, (k.insert (.event pxEventList) (.event k.pxCurrentTCB)).turns p = k.turns p :=
    fun p => turns_insert fun q hq => by cases hq
  have hleaves := leaves_delay (k := k.insert (.event pxEventList) (.event k.pxCurrentTCB))
    h.delayed_ne.1 h.delayed_ne.2.1 xTicksToWait true
  refine ⟨hleaves.pxCurrentTCB, fun p => ?_⟩
  rw [← hturns p]
  exact hleaves.turns p

end Calls

end Kernel

namespace System

open Kernel

variable {idle t : Task} {s s' : System} {c : TaskCall} {p : Nat}

/-- **What a step does to the ready lists.** -/
theorem Step.turned (hstep : Step idle s c s') (h : s.Inv idle) :
    Turned s.kernel s'.kernel ∨ ∃ t, Leaves t s.kernel s'.kernel := by
  have hinv : Kernel.Inv idle s.alive s.ticks s.wake s.creating s.kernel := h
  obtain ⟨hmay, k, heq, rfl⟩ := hstep
  cases c with
  | tickISR => exact Or.inl (turned_tickISR hinv heq)
  | yield => exact Or.inl (Arrivals.switch (.of_turns rfl fun _ => rfl) hinv.core.base heq)
  | suspendAll =>
      cases heq
      exact Or.inl (Arrivals.turned (.of_turns rfl fun _ => rfl))
  | resumeAll =>
      obtain ⟨⟨k', b⟩, heq', rfl⟩ := Option.map_eq_some_iff.mp heq
      exact Or.inl (turned_resumeAll hinv heq')
  | delay xTicksToWait =>
      cases heq
      exact Or.inr ⟨_, leaves_delay hinv.core.base.delayed_ne.1 hinv.core.base.delayed_ne.2.1 _ _⟩
  | placeOnEventList pxEventList xTicksToWait =>
      cases heq
      exact Or.inr ⟨_, leaves_placeOnEventList hinv.core.base _ _⟩
  | removeFromEventList pxEventList =>
      obtain ⟨⟨k', b⟩, heq', rfl⟩ := Option.map_eq_some_iff.mp heq
      exact Or.inl (arrivals_removeFromEventList hinv heq').turned
  | suspend t =>
      cases heq
      exact Or.inr ⟨t, leaves_suspend hinv.core.base t⟩
  | resetNextTaskUnblockTime =>
      cases heq
      exact Or.inl (Arrivals.turned (.of_turns rfl fun _ => rfl))
  | resume t => exact Or.inl (turned_resume hinv heq)
  | resumeFromISR t =>
      cases heq
      exact Or.inl (arrivals_resumeFromISR hinv t).turned
  | create t uxPriority =>
      cases heq
      exact Or.inl (arrivals_create hinv hmay uxPriority).turned
  | yieldToNewTask t => exact Or.inl (turned_yieldToNewTask hinv heq)

/-- The processor goes to another task, and it is of the priority. -/
def Dispatches (p : Nat) (s s' : System) : Prop :=
  s'.kernel.pxCurrentTCB ≠ s.kernel.pxCurrentTCB ∧ s'.kernel.uxPriority s'.kernel.pxCurrentTCB = p

instance (p : Nat) (s s' : System) : Decidable (Dispatches p s s') := inferInstanceAs (Decidable (_ ∧ _))

/-- How many tasks become ready while the task is at the index of its list, and so go in front of it. -/
def overtaking (t : Task) (p : Nat) (s s' : System) : Nat :=
  if (s.kernel.turns p).index = some (.state t) then
    (s'.kernel.items (.ready p)).length - (s.kernel.items (.ready p)).length
  else 0

/-- Runs in which a task is ready and is not dispatched. Counted are the steps at which the processor goes to another
    task of its priority, and the tasks that overtake it. -/
inductive Waiting (idle t : Task) (p : Nat) (s : System) : Nat → Nat → System → Prop
  | refl : Waiting idle t p s 0 0 s
  | step {dispatched overtaken s' c s''} : Waiting idle t p s dispatched overtaken s' → Step idle s' c s'' →
      s''.kernel.InState t (.ready p) → s''.kernel.pxCurrentTCB ≠ t →
      Waiting idle t p s (dispatched + if Dispatches p s' s'' then 1 else 0) (overtaken + overtaking t p s' s'') s''

theorem overtaking_of_length {n : Nat}
    (hlength : (s'.kernel.turns p).items.length = n + (s.kernel.turns p).items.length) :
    overtaking t p s s' = if (s.kernel.turns p).index = some (.state t) then n else 0 := by
  rw [overtaking]
  split_ifs
  · show (s'.kernel.turns p).items.length - (s.kernel.turns p).items.length = n
    omega
  · rfl

theorem overtaking_of_length_le (hlength : (s'.kernel.turns p).items.length ≤ (s.kernel.turns p).items.length) :
    overtaking t p s s' = 0 := by
  rw [overtaking]
  split_ifs
  · exact Nat.sub_eq_zero_of_le hlength
  · rfl

/-- A step at which the task waits is a turn, or no more than that, of the list that it waits in. -/
theorem Step.waits {r : Rounds Node} {selections passed : Nat} (hstep : Step idle s c s') (h : s.Inv idle)
    (ht' : s'.kernel.InState t (.ready p)) (hcurrent : s'.kernel.pxCurrentTCB ≠ t)
    (hwaits : Rounds.Waits (.state t) r selections passed (s.kernel.turns p)) :
    ∃ selections', selections + (if Dispatches p s s' then 1 else 0) ≤ selections' ∧
      Rounds.Waits (.state t) r selections' (passed + overtaking t p s s') (s'.kernel.turns p) := by
  have hwf := (Kernel.Inv.core h).base.wf
  have hbase' := (Kernel.Inv.core (hstep.effect h).inv).base
  rcases hstep.turned h with ⟨k₁, harrivals, hswitched⟩ | ⟨u, hleaves⟩
  · obtain ⟨new, hnodup, hnew, hturns₁⟩ := harrivals.turns p
    have harrived := hwaits.arrive new hnodup hnew
    rw [← hturns₁] at harrived
    have hlength : (k₁.turns p).items.length = new.length + (s.kernel.turns p).items.length := by
      rw [hturns₁, (Rounds.items_foldl_insertEnd_perm _ new).length_eq, List.length_append]
    cases hswitched with
    | kept hkept hturns =>
        have hnot : ¬ Dispatches p s s' := fun hd => hd.1 (hkept.trans harrivals.pxCurrentTCB)
        rw [← hturns p] at harrived hlength
        rw [if_neg hnot, overtaking_of_length hlength]
        exact ⟨selections, Nat.le_refl _, harrived⟩
    | next q hhead hnext hothers =>
        by_cases hq : q = p
        · subst hq
          have hturn := harrived.next _ _ _ fun heq => hcurrent (by simpa using hhead.symm.trans heq)
          rw [← hnext] at hturn
          rw [← Rounds.items_next, ← hnext] at hlength
          rw [overtaking_of_length hlength]
          refine ⟨selections + 1, ?_, hturn⟩
          split_ifs <;> omega
        · -- the task that is dispatched is of another priority
          have hnot : ¬ Dispatches p s s' := by
            intro hd
            have hmem : (.state s'.kernel.pxCurrentTCB : Node) ∈ s'.kernel.items (.ready q) := by
              show _ ∈ (s'.kernel.turns q).items
              rw [hnext, Rounds.items_next]
              exact (Rounds.order_perm _).mem_iff.mp (List.mem_of_mem_head? hhead)
            exact hq ((hbase'.ready _ _ ((hbase'.wf.mem _ _).mp hmem)).symm.trans hd.2)
          rw [← hothers p (Ne.symm hq)] at harrived hlength
          rw [if_neg hnot, overtaking_of_length hlength]
          exact ⟨selections, Nat.le_refl _, harrived⟩
  · have hnot : ¬ Dispatches p s s' := fun hd => hd.1 hleaves.pxCurrentTCB
    rw [if_neg hnot]
    refine ⟨selections, Nat.le_refl _, ?_⟩
    rcases hleaves.turns p with hturns | hturns
    · rw [overtaking_of_length_le (by rw [hturns]), hturns]
      exact hwaits
    · have hnodup : (s.kernel.turns p).items.Nodup := hwf.nodup (.ready p)
      have hmem : (.state t : Node) ∈ (s'.kernel.turns p).items := (hbase'.wf.mem _ (.ready p)).mpr ht'
      rw [hturns, Rounds.mem_items_remove hnodup] at hmem
      have hlength : (s'.kernel.turns p).items.length ≤ (s.kernel.turns p).items.length := by
        rw [hturns, Rounds.items_remove _ _ hnodup]
        exact List.length_erase_le
      rw [overtaking_of_length_le hlength, hturns]
      exact hwaits.remove _ _ _ _ (Ne.symm hmem.1)

theorem Waiting.waits {dispatched overtaken : Nat} (hwaiting : Waiting idle t p s dispatched overtaken s')
    (h : s.Inv idle) : s'.Inv idle ∧ ∃ selections, dispatched ≤ selections ∧
      Rounds.Waits (.state t) (s.kernel.turns p) selections overtaken (s'.kernel.turns p) := by
  induction hwaiting with
  | refl => exact ⟨h, 0, Nat.le_refl _, .refl⟩
  | step _ hstep ht' hcurrent ih =>
      obtain ⟨hinv, selections, hle, hwaits⟩ := ih
      obtain ⟨selections', hle', hwaits'⟩ := hstep.waits hinv ht' hcurrent hwaits
      exact ⟨(hstep.effect hinv).inv, selections', (Nat.add_le_add_right hle _).trans hle', hwaits'⟩

/-- **No task of a priority starves.** While a task is ready, the processor goes to others of its priority at most as
    often as there are tasks in front of it in the turn: fewer than are ready, and those that overtake it. -/
theorem no_starvation {dispatched overtaken : Nat} (hs : Reachable idle s) (ht : s.kernel.InState t (.ready p))
    (hwaiting : Waiting idle t p s dispatched overtaken s') :
    dispatched + (s'.kernel.turns p).waiting (.state t) ≤ (s.kernel.turns p).waiting (.state t) + overtaken ∧
      (s.kernel.turns p).waiting (.state t) < (s.kernel.items (.ready p)).length := by
  have hwf := (Kernel.Inv.core hs.inv).base.wf
  have hmem : (.state t : Node) ∈ (s.kernel.turns p).items := (hwf.mem _ (.ready p)).mpr ht
  obtain ⟨_, selections, hle, hwaits⟩ := hwaiting.waits hs.inv
  obtain ⟨hbound, _⟩ := hwaits.bound hmem (hwf.nodup (.ready p))
  refine ⟨(Nat.add_le_add_right hle _).trans hbound, ?_⟩
  have hperm := Rounds.order_perm (s.kernel.turns p)
  calc (s.kernel.turns p).waiting (.state t)
      < (s.kernel.turns p).order.length := List.idxOf_lt_length_of_mem (hperm.mem_iff.mpr hmem)
    _ = (s.kernel.items (.ready p)).length := hperm.length_eq

/-- Three tasks of one priority; the one that was created last runs first, and the second one is behind the first. -/
def threeTasks : System := started [(1, 2), (2, 2), (3, 2)] 0

def firstRuns : System := threeTasks.next .yield

theorem threeTasks_turn : Waiting 0 2 2 threeTasks 1 0 firstRuns ∧
    1 + (firstRuns.kernel.turns 2).waiting (.state 2) ≤ (threeTasks.kernel.turns 2).waiting (.state 2) := by
  have hs : Reachable 0 threeTasks := ⟨_, [], by decide, .nil⟩
  have hyield : Step 0 threeTasks .yield firstRuns := ⟨trivial, _, rfl, rfl⟩
  have hwaiting : Waiting 0 2 2 threeTasks 1 0 firstRuns := .step .refl hyield rfl (by decide)
  have ht : threeTasks.kernel.InState 2 (.ready 2) := rfl
  exact ⟨hwaiting, (no_starvation hs ht hwaiting).1⟩

end System
end Freertos
end Obsw
