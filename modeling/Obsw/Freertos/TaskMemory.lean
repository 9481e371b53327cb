import Obsw.Freertos.TaskRun

/-!
# `Freertos.TaskMemory` — the scheduler on linked lists

What the scheduler does to its lists are calls of `list.c` that keep to its rules (`Legal`): an item is inserted
when it is in no list, and taken out of the list it is in. Each step makes these calls in the memory as well
(`Step.inMemory`), so in every run the memory holds the lists of the kernel (`lists_in_memory`).
-/

namespace Obsw
namespace Freertos

namespace Contents

variable {α : Type} [DecidableEq α] {isList : α → Prop} {c : Contents α} {calls calls' : List (ListCall α)}

theorem run_append : (c.run (calls ++ calls')).2 = ((c.run calls).2.run calls').2 := by
  induction calls generalizing c with
  | nil => rfl
  | cons call calls ih => exact ih

theorem mayRun_append (h : c.MayRun isList calls) (h' : (c.run calls).2.MayRun isList calls') :
    c.MayRun isList (calls ++ calls') := by
  induction calls generalizing c with
  | nil => exact h'
  | cons call calls ih => exact ⟨h.1, ih h.2 h'⟩

end Contents

namespace Kernel

/-- The markers of the lists. -/
def IsList (x : Node) : Prop := ∃ n, x = .list n

/-- What is done to the lists are legal calls of `list.c`. -/
def Legal (k k' : Kernel) : Prop :=
  k.Wf → k'.Wf ∧ ∃ calls, k.lists.MayRun IsList calls ∧ (k.lists.run calls).2 = k'.lists

variable {k k' k'' : Kernel} {n : ListName} {x : Node} {t : Task}

theorem Legal.of_same (hlists : k'.lists = k.lists) (hcontainer : k'.pxContainer = k.pxContainer) :
    Legal k k' := by
  intro h
  have hitems : ∀ n, k'.items n = k.items n := fun n => by rw [items, items, hlists]
  refine ⟨⟨fun x n => ?_, fun n => ?_, fun x e => ?_⟩, [], trivial, hlists.symm⟩
  · rw [hitems, hcontainer]
    exact h.mem x n
  · rw [hitems]
    exact h.nodup n
  · rw [hcontainer]
    exact h.named x e

theorem Legal.trans (h : Legal k k') (h' : Legal k' k'') : Legal k k'' := by
  intro hwf
  obtain ⟨hwf', calls, hmay, hrun⟩ := h hwf
  obtain ⟨hwf'', calls', hmay', hrun'⟩ := h' hwf'
  rw [← hrun] at hmay' hrun'
  exact ⟨hwf'', calls ++ calls', Contents.mayRun_append hmay hmay', Contents.run_append.trans hrun'⟩

/-- One call. -/
theorem Legal.call (call : ListCall Node) (hmay : k.Wf → k.lists.May IsList call) (hwf : k.Wf → k'.Wf)
    (hlists : (k.lists.call call).2 = k'.lists) : Legal k k' :=
  fun h => ⟨hwf h, [call], ⟨hmay h, trivial⟩, hlists⟩

theorem legal_insertEnd (hx : k.pxContainer x = none) (hitem : ¬ IsList x) : Legal k (k.insertEnd n x) := by
  refine .call (.insertEnd (.list n) x) (fun h => ⟨⟨n, rfl⟩, hitem, ?_⟩) (fun h => h.insertEnd hx) rfl
  rintro _ ⟨m, rfl⟩
  exact h.not_mem hx m

theorem legal_insert (hx : k.pxContainer x = none) (hitem : ¬ IsList x) : Legal k (k.insert n x) := by
  refine .call (.insert (.list n) x) (fun h => ⟨⟨n, rfl⟩, hitem, ?_⟩) (fun h => h.insert hx) rfl
  rintro _ ⟨m, rfl⟩
  exact h.not_mem hx m

theorem legal_remove (x : Node) : Legal k (k.remove x) := by
  cases hx : k.pxContainer x with
  | none =>
      rw [remove_none hx]
      exact .of_same rfl rfl
  | some e =>
      refine .call (.remove e x) (fun h => ?_) Wf.remove (by rw [remove_some hx])
      obtain ⟨n, rfl⟩ := h.named x e hx
      exact ⟨⟨n, rfl⟩, (h.mem x n).mpr hx⟩

theorem legal_setValue {v : Nat} (hitem : ¬ IsList x) (hv : v ≤ portMAX_DELAY) : Legal k (k.setValue x v) :=
  .call (.setValue x v) (fun _ => ⟨hitem, hv⟩) Wf.setValue rfl

theorem not_isList_state (t : Task) : ¬ IsList (.state t) := fun ⟨_, heq⟩ => by cases heq

theorem not_isList_event (t : Task) : ¬ IsList (.event t) := fun ⟨_, heq⟩ => by cases heq

theorem legal_addReady (ht : k.pxContainer (.state t) = none) : Legal k (k.prvAddTaskToReadyList t) := by
  have hrecord : Legal k (k.recordReadyPriority (k.uxPriority t)) := .of_same rfl rfl
  exact hrecord.trans (legal_insertEnd ht (not_isList_state t))

theorem legal_release (t : Task) : Legal k (k.release t) :=
  (legal_remove _).trans ((legal_remove _).trans (legal_addReady (by simp)))

theorem legal_unblockDue {xConstTickCount passes : Nat} {sw sw' : Bool}
    (h : unblockDue xConstTickCount passes k sw = some (k', sw')) : Legal k k' := by
  induction passes generalizing k sw with
  | zero => cases h
  | succ passes ih =>
      rw [unblockDue] at h
      split at h
      · cases h
        exact .of_same rfl rfl
      · dsimp only at h
        split_ifs at h
        · cases h
          exact .of_same rfl rfl
        · exact (legal_release _).trans (ih h)

theorem legal_incrementTick {sw : Bool} (h : k.xTaskIncrementTick = some (k', sw)) : Legal k k' := by
  unfold xTaskIncrementTick at h
  split_ifs at h with hrunning
  · dsimp only at h
    generalize hk₁ : (if (k.xTickCount + 1) % 2 ^ 32 = 0 then
      ({ k with xTickCount := (k.xTickCount + 1) % 2 ^ 32 } : Kernel).switchDelayedLists
      else { k with xTickCount := (k.xTickCount + 1) % 2 ^ 32 }) = k₁ at h
    have hadvance : Legal k k₁ := by
      subst hk₁
      split_ifs <;> exact .of_same rfl rfl
    obtain ⟨⟨k₂, sw₂⟩, hloop, heq⟩ := Option.map_eq_some_iff.mp h
    cases heq
    split_ifs at hloop
    · exact hadvance.trans (legal_unblockDue hloop)
    · cases hloop
      exact hadvance
  · cases h
    exact .of_same rfl rfl

theorem highestReady_items {u p : Nat} (h : k.highestReady u = some p) : k.items (.ready p) ≠ [] := by
  induction u with
  | zero =>
      rw [highestReady] at h
      split_ifs at h with hempty
      exact Option.some.inj h ▸ hempty
  | succ u ih =>
      rw [highestReady] at h
      split_ifs at h with hempty
      · exact ih h
      · exact Option.some.inj h ▸ hempty

theorem legal_switch (h : k.vTaskSwitchContext = some k') : Legal k k' := by
  unfold vTaskSwitchContext at h
  split_ifs at h
  · cases h
    exact .of_same rfl rfl
  · obtain ⟨p, hp, rfl⟩ := Option.map_eq_some_iff.mp h
    have hitems := highestReady_items hp
    refine .call (.getNext (.list (.ready p))) (fun _ => ⟨⟨_, rfl⟩, hitems⟩) (fun hwf => ?_) rfl
    refine ⟨fun x n => ?_, fun n => ?_, hwf.named⟩
    · show x ∈ ((k.lists.call (.getNext (.list (.ready p)))).2.rounds (.list n)).items ↔ _
      rw [next_items]
      exact hwf.mem x n
    · show ((k.lists.call (.getNext (.list (.ready p)))).2.rounds (.list n)).items.Nodup
      rw [next_items]
      exact hwf.nodup n

theorem legal_tickISR (h : k.vPortTickISR = some k') : Legal k k' := by
  unfold vPortTickISR at h
  split at h
  · cases h
  · rename_i k₁ sw heq
    split_ifs at h
    · exact (legal_incrementTick heq).trans (legal_switch h)
    · cases h
      exact legal_incrementTick heq

theorem legal_readyPending {passes : Nat} (h : readyPending passes k = some k') : Legal k k' := by
  induction passes generalizing k with
  | zero => cases h
  | succ passes ih =>
      rw [readyPending] at h
      split at h
      · cases h
        exact .of_same rfl rfl
      · dsimp only at h
        refine Legal.trans ?_ (ih h)
        exact (((legal_remove _).trans ((legal_remove _).trans (legal_addReady (by simp)))).trans
          (.of_same rfl rfl))

theorem legal_replayTicks {n : Nat} (h : replayTicks n k = some k') : Legal k k' := by
  induction n generalizing k with
  | zero =>
      cases h
      exact .of_same rfl rfl
  | succ n ih =>
      rw [replayTicks] at h
      split at h
      · cases h
      · rename_i k₁ sw heq
        have hrest := ih h
        refine (legal_incrementTick heq).trans (Legal.trans ?_ hrest)
        exact .of_same rfl rfl

theorem legal_resumeAll {b : Bool} (h : k.xTaskResumeAll = some (k', b)) : Legal k k' := by
  unfold xTaskResumeAll at h
  dsimp only at h
  by_cases hrunning : k.uxSchedulerSuspended - 1 = 0
  · rw [if_pos hrunning] at h
    split at h
    · cases h
    · rename_i k₁ hready
      have hready : Legal k k₁ := by
        refine Legal.trans ?_ (legal_readyPending hready)
        exact .of_same rfl rfl
      generalize hk₂ : (if ({ k with uxSchedulerSuspended := k.uxSchedulerSuspended - 1 } : Kernel).items
        .pendingReady = [] then k₁ else k₁.prvResetNextTaskUnblockTime) = k₂ at h
      have hreset : Legal k₁ k₂ := by
        subst hk₂
        split_ifs <;> exact .of_same rfl rfl
      split at h
      · cases h
      · rename_i k₃ hreplay
        have hthree := (hready.trans hreset).trans (legal_replayTicks hreplay)
        split_ifs at h
        · obtain ⟨k₄, hswitch, heq⟩ := Option.map_eq_some_iff.mp h
          cases heq
          refine hthree.trans (Legal.trans ?_ (legal_switch hswitch))
          exact .of_same rfl rfl
        · cases h
          exact hthree.trans (.of_same rfl rfl)
  · rw [if_neg hrunning] at h
    cases h
    exact .of_same rfl rfl

theorem legal_delay (xTicksToWait : Nat) (xCanBlockIndefinitely : Bool) :
    Legal k (k.prvAddCurrentTaskToDelayedList xTicksToWait xCanBlockIndefinitely) := by
  have hremove : Legal k (k.remove (.state k.pxCurrentTCB)) := legal_remove _
  have hnone : (k.remove (.state k.pxCurrentTCB)).pxContainer (.state k.pxCurrentTCB) = none := by simp
  have hset : Legal k ((k.remove (.state k.pxCurrentTCB)).setValue (.state k.pxCurrentTCB)
      ((k.xTickCount + xTicksToWait) % 2 ^ 32)) :=
    hremove.trans (legal_setValue (not_isList_state _) (Nat.le_sub_one_of_lt (Nat.mod_lt _ (by decide))))
  unfold prvAddCurrentTaskToDelayedList
  dsimp only
  split_ifs
  · exact hremove.trans (legal_insertEnd hnone (not_isList_state _))
  · exact hset.trans (legal_insert hnone (not_isList_state _))
  · exact (hset.trans (legal_insert hnone (not_isList_state _))).trans (.of_same rfl rfl)
  · exact hset.trans (legal_insert hnone (not_isList_state _))

theorem legal_removeFromEventList {pxEventList : Nat} {b : Bool}
    (h : k.xTaskRemoveFromEventList pxEventList = some (k', b)) : Legal k k' := by
  obtain ⟨x, _, h⟩ := Option.map_eq_some_iff.mp h
  dsimp only at h
  generalize hk₂ : (if (k.remove (.event x.owner)).uxSchedulerSuspended = 0 then
    ((k.remove (.event x.owner)).remove (.state x.owner)).prvAddTaskToReadyList x.owner
    else (k.remove (.event x.owner)).insertEnd .pendingReady (.event x.owner)) = k₂ at h
  have hmoved : Legal k k₂ := by
    subst hk₂
    split_ifs
    · exact (legal_remove _).trans ((legal_remove _).trans (legal_addReady (by simp)))
    · exact (legal_remove _).trans (legal_insertEnd (by simp) (not_isList_event _))
  split_ifs at h <;> cases h
  · exact hmoved.trans (.of_same rfl rfl)
  · exact hmoved

theorem legal_suspend (t : Task) : Legal k (k.vTaskSuspend t) :=
  (legal_remove _).trans ((legal_remove _).trans (legal_insertEnd (by simp) (not_isList_state t)))

theorem legal_resume (h : k.vTaskResume t = some k') : Legal k k' := by
  unfold vTaskResume at h
  split_ifs at h with hcond
  · have hready : Legal k ((k.remove (.state t)).prvAddTaskToReadyList t) :=
      (legal_remove _).trans (legal_addReady (by simp))
    dsimp only at h
    split_ifs at h
    · exact hready.trans (legal_switch h)
    · cases h
      exact hready
  · cases h
    exact .of_same rfl rfl

theorem legal_resumeFromISR (t : Task) : Legal k (k.xTaskResumeFromISR t) := by
  unfold xTaskResumeFromISR
  split_ifs with hcond hrunning
  · have hyield : Legal k { k with
      xYieldPending := k.xYieldPending || k.uxPriority k.pxCurrentTCB ≤ k.uxPriority t } := .of_same rfl rfl
    refine hyield.trans ?_
    exact (legal_remove _).trans (legal_addReady (by simp))
  · exact legal_insertEnd (of_decide_eq_true hcond).2 (not_isList_event t)
  · exact .of_same rfl rfl

theorem legal_create (ht : k.pxContainer (.state t) = none) (uxPriority : Nat) :
    Legal k (k.xTaskCreate t uxPriority) := by
  have hinitialise : Legal k (k.prvInitialiseNewTask t uxPriority) := by
    have hpriority : Legal k { k with
      uxPriority := Function.update k.uxPriority t (limitPriority uxPriority) } := .of_same rfl rfl
    refine hpriority.trans (legal_setValue (not_isList_event t) ?_)
    unfold configMAX_PRIORITIES portMAX_DELAY
    omega
  exact hinitialise.trans (legal_addReady ht)

theorem legal_yieldToNewTask (h : k.yieldToNewTask t = some k') : Legal k k' := by
  unfold yieldToNewTask at h
  split_ifs at h
  · exact legal_switch h
  · cases h
    exact .of_same rfl rfl

theorem legal_start (created : List (Task × Nat)) (idle : Task)
    (hnodup : ((created ++ [(idle, 0)]).map Prod.fst).Nodup) :
    ∃ first, Legal (initial first) (vTaskStartScheduler created idle) := by
  have hfold : ∀ (tasks : List (Task × Nat)) (alive : Task → Prop) (k : Kernel), Starting alive k →
      (tasks.map Prod.fst).Nodup → (∀ t ∈ tasks.map Prod.fst, ¬ alive t) →
      Legal k (tasks.foldl (fun k x => k.createBeforeStart x.1 x.2) k) := by
    intro tasks
    induction tasks with
    | nil => exact fun _ _ _ _ _ => .of_same rfl rfl
    | cons x tasks ih =>
        intro alive k h hnodup hnew
        obtain ⟨t, uxPriority⟩ := x
        obtain ⟨hx, hnodup⟩ := List.nodup_cons.mp hnodup
        have ht := hnew t List.mem_cons_self
        have hnone : k.pxContainer (.state t) = none := by
          by_contra hne
          exact ht (h.base.known t hne)
        have hone : Legal k (k.createBeforeStart t uxPriority) := by
          rw [createBeforeStart_eq]
          exact (legal_create hnone uxPriority).trans (.of_same rfl rfl)
        refine hone.trans (ih _ _ (h.create ht uxPriority) hnodup fun u hu => ?_)
        rintro (rfl | halive)
        · exact hx hu
        · exact hnew u (List.mem_cons_of_mem t hu) halive
  exact ⟨_, (hfold _ _ _ (starting_initial _) hnodup fun _ _ => id).trans (.of_same rfl rfl)⟩

end Kernel

namespace System

open Kernel

variable {idle : Task} {s s' : System} {c : TaskCall} {calls : List TaskCall}

theorem Step.legal (hstep : Step idle s c s') (h : s.Inv idle) : Legal s.kernel s'.kernel := by
  have hinv : Kernel.Inv idle s.alive s.ticks s.wake s.creating s.kernel := h
  obtain ⟨hmay, k, heq, rfl⟩ := hstep
  cases c with
  | tickISR => exact legal_tickISR heq
  | yield => exact legal_switch heq
  | suspendAll =>
      cases heq
      exact .of_same rfl rfl
  | resumeAll =>
      obtain ⟨⟨k', b⟩, heq', rfl⟩ := Option.map_eq_some_iff.mp heq
      exact legal_resumeAll heq'
  | delay xTicksToWait =>
      cases heq
      exact legal_delay _ _
  | placeOnEventList pxEventList xTicksToWait =>
      cases heq
      obtain ⟨_, ⟨p, hready⟩, _⟩ := hmay
      exact (legal_insert (hinv.core.not_waits hready) (not_isList_event _)).trans (legal_delay _ _)
  | removeFromEventList pxEventList =>
      obtain ⟨⟨k', b⟩, heq', rfl⟩ := Option.map_eq_some_iff.mp heq
      exact legal_removeFromEventList heq'
  | suspend t =>
      cases heq
      exact legal_suspend t
  | resetNextTaskUnblockTime =>
      cases heq
      exact .of_same rfl rfl
  | resume t => exact legal_resume heq
  | resumeFromISR t =>
      cases heq
      exact legal_resumeFromISR t
  | create t uxPriority =>
      cases heq
      refine legal_create ?_ uxPriority
      by_contra hne
      exact hmay (hinv.core.base.known t hne)
  | yieldToNewTask t => exact legal_yieldToNewTask heq

end System

open LinkedRing

/-- The lists behind `prvInitialiseTaskLists`, and the lists of events behind `vListInitialise`. -/
def initialLists : Lists Node where
  item
    | .list n => ⟨portMAX_DELAY, .list n, .list n, none⟩
    | x => ⟨0, x, x, none⟩
  pxIndex x := x
  uxNumberOfItems _ := 0

theorem represents_initialLists (first : Task) :
    Represents Kernel.IsList initialLists (Kernel.initial first).lists := by
  constructor
  · rintro _ ⟨n, rfl⟩
    exact linked_cons_cons.mpr ⟨⟨rfl, rfl⟩, linked_singleton⟩
  · exact fun _ _ => List.nodup_nil
  · intro x e hx
    cases x with
    | list n => exact absurd ⟨n, rfl⟩ hx
    | state t => exact ⟨fun heq => (by cases heq), fun ⟨_, hmem⟩ => (by cases hmem)⟩
    | event t => exact ⟨fun heq => (by cases heq), fun ⟨_, hmem⟩ => (by cases hmem)⟩
  · exact fun e _ x hx => by cases hx
  · exact fun _ _ => rfl
  · exact fun _ _ => rfl
  · rintro _ ⟨n, rfl⟩
    rfl
  · intro x hx
    cases x with
    | list n => exact absurd ⟨n, rfl⟩ hx
    | state t => rfl
    | event t => rfl
  · exact fun _ => Nat.zero_le _

/-- Calls of `list.c` that keep to its rules make the lists `c'` of the lists `c`, and the memory `m'` of the memory
    `m`, and return the same. -/
def InMemory (m : Lists Node) (c : Contents Node) (m' : Lists Node) (c' : Contents Node) : Prop :=
  ∃ listCalls, c.MayRun Kernel.IsList listCalls ∧ (c.run listCalls).2 = c' ∧
    m.run listCalls = some ((c.run listCalls).1, m')

/-- What is done to the lists is done in a memory that holds them. -/
theorem Kernel.Legal.inMemory {k k' : Kernel} {m : Lists Node} (h : Kernel.Legal k k') (hwf : k.Wf)
    (hrep : Represents Kernel.IsList m k.lists) :
    ∃ m', InMemory m k.lists m' k'.lists ∧ Represents Kernel.IsList m' k'.lists := by
  obtain ⟨_, listCalls, hmay, hlists⟩ := h hwf
  obtain ⟨m', hrun, hrep'⟩ := represents_run hrep hmay
  exact ⟨m', ⟨listCalls, hmay, hlists, hrun⟩, hlists ▸ hrep'⟩

namespace System

variable {idle : Task} {s s' : System} {c : TaskCall} {calls : List TaskCall} {m : Lists Node}

/-- A run of the scheduler, with what its steps do in the memory. -/
inductive RunInMemory (idle : Task) (s : System) (m : Lists Node) : List TaskCall → System → Lists Node → Prop
  | nil : RunInMemory idle s m [] s m
  | snoc {calls s' m' c s'' m''} : RunInMemory idle s m calls s' m' → Step idle s' c s'' →
      InMemory m' s'.kernel.lists m'' s''.kernel.lists → RunInMemory idle s m (calls ++ [c]) s'' m''

/-- **A step in the memory.** -/
theorem Step.inMemory (hstep : Step idle s c s') (h : s.Inv idle)
    (hrep : Represents Kernel.IsList m s.kernel.lists) :
    ∃ m', InMemory m s.kernel.lists m' s'.kernel.lists ∧ Represents Kernel.IsList m' s'.kernel.lists :=
  (hstep.legal h).inMemory (Kernel.Inv.core h).base.wf hrep

theorem Run.inMemory (hrun : Run idle s calls s') (h : s.Inv idle)
    (hrep : Represents Kernel.IsList m s.kernel.lists) :
    ∃ m', RunInMemory idle s m calls s' m' ∧ Represents Kernel.IsList m' s'.kernel.lists := by
  induction hrun with
  | nil => exact ⟨m, .nil, hrep⟩
  | snoc hrun hstep ih =>
      obtain ⟨m₁, hrun₁, hrep₁⟩ := ih
      obtain ⟨m', hcalls, hrep'⟩ := hstep.inMemory (hrun.inv h) hrep₁
      exact ⟨m', hrun₁.snoc hstep hcalls, hrep'⟩

end System

end Freertos
end Obsw
