import Obsw.Freertos.TaskLists

/-!
# `Freertos.TaskStates` — the states of the tasks

What holds between any two operations on the lists (`Base`): the items are in lists of their kind, the delayed
lists and the lists of events are sorted, and a ready task is in the list of its priority. Then what moves a task
from one state to another.
-/

namespace Obsw
namespace Freertos

/-- The items a list is for. -/
def ListName.Holds : ListName → Node → Prop
  | .pendingReady, x | .event _, x => ∃ t, x = .event t
  | _,             x => ∃ t, x = .state t

theorem ListName.holds_one (n : ListName) {t u : Task} (h : n.Holds (.state t)) :
    ¬ n.Holds (.event u) := by
  intro h'
  cases n <;> simp [ListName.Holds] at h h'

/-- The lists that are sorted. -/
def ListName.Sorted : ListName → Prop
  | .delayed1 | .delayed2 | .event _ => True
  | _ => False

namespace Kernel

/-- The state of a task: the list of its state item. -/
def InState (k : Kernel) (t : Task) (n : ListName) : Prop := k.pxContainer (.state t) = some (.list n)

/-- The event item of a task is in a list. -/
def Waits (k : Kernel) (t : Task) (n : ListName) : Prop := k.pxContainer (.event t) = some (.list n)

structure Base (alive : Task → Prop) (k : Kernel) : Prop where
  wf : k.Wf
  kinds : ∀ x n, k.pxContainer x = some (.list n) → n.Holds x
  delayedLists : k.pxDelayedTaskList = .delayed1 ∧ k.pxOverflowDelayedTaskList = .delayed2 ∨
    k.pxDelayedTaskList = .delayed2 ∧ k.pxOverflowDelayedTaskList = .delayed1
  sorted : ∀ n : ListName, n.Sorted → k.SortedList n
  ready : ∀ t p, k.InState t (.ready p) → k.uxPriority t = p
  top : ∀ t p, k.InState t (.ready p) → p ≤ k.uxTopReadyPriority
  known : ∀ t, k.pxContainer (.state t) ≠ none → alive t
  eventValue : ∀ t, alive t → k.value (.event t) = configMAX_PRIORITIES - k.uxPriority t

/-- The variables that moving a task leaves alone. -/
structure SameControl (k k' : Kernel) : Prop where
  uxPriority : k'.uxPriority = k.uxPriority
  pxDelayedTaskList : k'.pxDelayedTaskList = k.pxDelayedTaskList
  pxOverflowDelayedTaskList : k'.pxOverflowDelayedTaskList = k.pxOverflowDelayedTaskList
  pxCurrentTCB : k'.pxCurrentTCB = k.pxCurrentTCB
  xTickCount : k'.xTickCount = k.xTickCount
  xPendedTicks : k'.xPendedTicks = k.xPendedTicks
  xNumOfOverflows : k'.xNumOfOverflows = k.xNumOfOverflows
  uxSchedulerSuspended : k'.uxSchedulerSuspended = k.uxSchedulerSuspended

theorem SameControl.rfl (k : Kernel) : SameControl k k := by constructor <;> exact Eq.refl _

theorem SameControl.trans {k k' k'' : Kernel} (h : SameControl k k') (h' : SameControl k' k'') :
    SameControl k k'' :=
  ⟨h'.uxPriority.trans h.uxPriority, h'.pxDelayedTaskList.trans h.pxDelayedTaskList,
    h'.pxOverflowDelayedTaskList.trans h.pxOverflowDelayedTaskList, h'.pxCurrentTCB.trans h.pxCurrentTCB,
    h'.xTickCount.trans h.xTickCount, h'.xPendedTicks.trans h.xPendedTicks,
    h'.xNumOfOverflows.trans h.xNumOfOverflows, h'.uxSchedulerSuspended.trans h.uxSchedulerSuspended⟩

section Moves

variable {alive : Task → Prop} {k : Kernel} {t u : Task} {n : ListName}

theorem insertEnd_same (x : Node) : SameControl k (k.insertEnd n x) := by constructor <;> rfl

theorem insert_same (x : Node) : SameControl k (k.insert n x) := by constructor <;> rfl

theorem setValue_same (x : Node) (v : Nat) : SameControl k (k.setValue x v) := by constructor <;> rfl

theorem remove_same (x : Node) : SameControl k (k.remove x) := by
  unfold remove
  cases k.pxContainer x <;> constructor <;> rfl

theorem addReady_same (t : Task) : SameControl k (k.prvAddTaskToReadyList t) := by constructor <;> rfl

@[simp] theorem remove_top (x : Node) : (k.remove x).uxTopReadyPriority = k.uxTopReadyPriority := by
  unfold remove
  cases k.pxContainer x <;> rfl

@[simp] theorem remove_unblock (x : Node) : (k.remove x).xNextTaskUnblockTime = k.xNextTaskUnblockTime := by
  unfold remove
  cases k.pxContainer x <;> rfl

@[simp] theorem remove_yield (x : Node) : (k.remove x).xYieldPending = k.xYieldPending := by
  unfold remove
  cases k.pxContainer x <;> rfl

@[simp] theorem addReady_container : (k.prvAddTaskToReadyList t).pxContainer =
    Function.update k.pxContainer (.state t) (some (.list (.ready (k.uxPriority t)))) := rfl

@[simp] theorem addReady_value (x : Node) : (k.prvAddTaskToReadyList t).value x = k.value x := rfl

@[simp] theorem addReady_unblock :
    (k.prvAddTaskToReadyList t).xNextTaskUnblockTime = k.xNextTaskUnblockTime := rfl

@[simp] theorem addReady_yield : (k.prvAddTaskToReadyList t).xYieldPending = k.xYieldPending := rfl

theorem Base.remove (h : Base alive k) (x : Node) : Base alive (k.remove x) := by
  have hsame := remove_same (k := k) x
  have hsub : ∀ y e, (k.remove x).pxContainer y = some e → k.pxContainer y = some e := by
    intro y e
    rw [remove_container, Function.update_apply]
    split_ifs
    · exact fun heq => (by cases heq)
    · exact id
  constructor
  · exact h.wf.remove
  · exact fun y n hy => h.kinds y n (hsub y _ hy)
  · rw [hsame.pxDelayedTaskList, hsame.pxOverflowDelayedTaskList]
    exact h.delayedLists
  · exact fun n hn => (h.sorted n hn).remove h.wf
  · intro t p ht
    rw [hsame.uxPriority]
    exact h.ready t p (hsub _ _ ht)
  · intro t p ht
    rw [remove_top]
    exact h.top t p (hsub _ _ ht)
  · intro t ht
    refine h.known t fun hnone => ht ?_
    rw [remove_container, Function.update_apply]
    split_ifs
    · rfl
    · exact hnone
  · intro t ht
    rw [remove_value, hsame.uxPriority]
    exact h.eventValue t ht

/-- An item that is in no list goes into one for its kind. -/
theorem Base.put {k' : Kernel} {x : Node} (h : Base alive k) (hsame : SameControl k k') (hwf : k'.Wf)
    (hcontainer : k'.pxContainer = Function.update k.pxContainer x (some (.list n)))
    (hsorted : ∀ n' : ListName, n'.Sorted → k'.SortedList n') (hvalue : ∀ y, k'.value y = k.value y)
    (htop : k.uxTopReadyPriority ≤ k'.uxTopReadyPriority) (hx : k.pxContainer x = none) (hn : n.Holds x)
    (hready : ∀ t p, x = .state t → n = .ready p → k.uxPriority t = p ∧ p ≤ k'.uxTopReadyPriority)
    (halive : ∀ t, x = .state t → alive t) : Base alive k' := by
  have hcases : ∀ y n', k'.pxContainer y = some (.list n') →
      (y = x ∧ n' = n) ∨ (y ≠ x ∧ k.pxContainer y = some (.list n')) := by
    intro y n'
    rw [hcontainer, Function.update_apply]
    split_ifs with hy
    · exact fun heq => Or.inl ⟨hy, (Node.list.inj (Option.some.inj heq)).symm⟩
    · exact fun heq => Or.inr ⟨hy, heq⟩
  constructor
  · exact hwf
  · intro y n' hy
    rcases hcases y n' hy with ⟨rfl, rfl⟩ | ⟨_, hy⟩
    · exact hn
    · exact h.kinds y n' hy
  · rw [hsame.pxDelayedTaskList, hsame.pxOverflowDelayedTaskList]
    exact h.delayedLists
  · exact hsorted
  · intro u p hu
    rw [hsame.uxPriority]
    rcases hcases _ _ hu with ⟨hux, hp⟩ | ⟨_, hu⟩
    · exact (hready u p hux.symm hp.symm).1
    · exact h.ready u p hu
  · intro u p hu
    rcases hcases _ _ hu with ⟨hux, hp⟩ | ⟨_, hu⟩
    · exact (hready u p hux.symm hp.symm).2
    · exact Nat.le_trans (h.top u p hu) htop
  · intro u hu
    by_cases heq : (.state u : Node) = x
    · exact halive u heq.symm
    · refine h.known u fun hnone => hu ?_
      rw [hcontainer, Function.update_of_ne heq]
      exact hnone
  · intro u hu
    rw [hvalue, hsame.uxPriority]
    exact h.eventValue u hu

/-- A task that is in no list becomes ready. -/
theorem Base.addReady (h : Base alive k) (ht : k.pxContainer (.state t) = none) (halive : alive t) :
    Base alive (k.prvAddTaskToReadyList t) := by
  have htop : k.uxTopReadyPriority ≤ (k.prvAddTaskToReadyList t).uxTopReadyPriority ∧
      k.uxPriority t ≤ (k.prvAddTaskToReadyList t).uxTopReadyPriority := by
    show _ ≤ (if k.uxTopReadyPriority < k.uxPriority t then k.uxPriority t else k.uxTopReadyPriority) ∧
      _ ≤ (if k.uxTopReadyPriority < k.uxPriority t then k.uxPriority t else k.uxTopReadyPriority)
    split_ifs <;> omega
  have hwf : (k.recordReadyPriority (k.uxPriority t)).Wf := ⟨h.wf.mem, h.wf.nodup, h.wf.named⟩
  refine h.put (addReady_same t) (hwf.insertEnd ht) addReady_container (fun n' hn' => ?_) (fun _ => rfl) htop.1
    ht ⟨t, rfl⟩ ?_ fun u hu => Node.state.inj hu ▸ halive
  · have hne : n' ≠ .ready (k.uxPriority t) := by
      rintro rfl
      exact hn'
    exact SortedList.insertEnd (k := k.recordReadyPriority (k.uxPriority t)) (h.sorted n' hn') hne
  · intro u p hu hp
    obtain rfl := Node.state.inj hu
    rw [← ListName.ready.inj hp]
    exact ⟨rfl, htop.2⟩

/-- An item that is in no list goes into a list that is not for ready tasks, in the order of the values. -/
theorem Base.insert (h : Base alive k) {x : Node} (hx : k.pxContainer x = none) (hn : n.Holds x)
    (hready : ∀ p, n ≠ .ready p) (halive : ∀ t, x = .state t → alive t) :
    Base alive (k.insert n x) :=
  h.put (insert_same x) (h.wf.insert hx) insert_container (fun n' hn' => (h.sorted n' hn').insert)
    (fun _ => rfl) (Nat.le_refl _) hx hn (fun _ p _ hp => absurd hp (hready p)) halive

/-- An item that is in no list goes to the end of a list that is not sorted, nor for ready tasks. -/
theorem Base.insertEnd (h : Base alive k) {x : Node} (hx : k.pxContainer x = none) (hn : n.Holds x)
    (hready : ∀ p, n ≠ .ready p) (hsorted : ¬ n.Sorted) (halive : ∀ t, x = .state t → alive t) :
    Base alive (k.insertEnd n x) :=
  h.put (insertEnd_same x) (h.wf.insertEnd hx) insertEnd_container
    (fun n' hn' => (h.sorted n' hn').insertEnd fun heq => hsorted (heq ▸ hn')) (fun _ => rfl) (Nat.le_refl _) hx
    hn (fun _ p _ hp => absurd hp (hready p)) halive

/-- The value of a state item that is in no list is set. -/
theorem Base.setValue (h : Base alive k) (ht : k.pxContainer (.state t) = none) (v : Nat) :
    Base alive (k.setValue (.state t) v) := by
  refine ⟨h.wf.setValue, h.kinds, h.delayedLists, fun n hn => ?_, h.ready, h.top, h.known, fun u hu => ?_⟩
  · exact (h.sorted n hn).setValue (h.wf.not_mem ht n)
  · rw [setValue_value, if_neg (fun heq => by cases heq)]
    exact h.eventValue u hu

/-- Other variables do not matter to it. -/
theorem Base.congr {k' : Kernel} (h : Base alive k) (hitems : ∀ n, k'.items n = k.items n)
    (hvalue : ∀ x, k'.value x = k.value x) (hcontainer : k'.pxContainer = k.pxContainer)
    (hpriority : k'.uxPriority = k.uxPriority)
    (hdelayed : k'.pxDelayedTaskList = k.pxDelayedTaskList ∧
        k'.pxOverflowDelayedTaskList = k.pxOverflowDelayedTaskList ∨
      k'.pxDelayedTaskList = k.pxOverflowDelayedTaskList ∧
        k'.pxOverflowDelayedTaskList = k.pxDelayedTaskList)
    (htop : ∀ t p, k.InState t (.ready p) → p ≤ k'.uxTopReadyPriority) : Base alive k' := by
  constructor
  · refine ⟨fun x n => ?_, fun n => ?_, fun x e => ?_⟩
    · rw [hitems, hcontainer]
      exact h.wf.mem x n
    · rw [hitems]
      exact h.wf.nodup n
    · rw [hcontainer]
      exact h.wf.named x e
  · rw [hcontainer]
    exact h.kinds
  · rcases hdelayed with ⟨h1, h2⟩ | ⟨h1, h2⟩
    · rw [h1, h2]
      exact h.delayedLists
    · rw [h1, h2]
      exact h.delayedLists.symm.imp And.symm And.symm
  · intro n hn
    unfold SortedList
    rw [hitems]
    simp only [hvalue]
    exact h.sorted n hn
  · unfold InState
    rw [hcontainer, hpriority]
    exact h.ready
  · unfold InState
    rw [hcontainer]
    exact htop
  · rw [hcontainer]
    exact h.known
  · intro t ht
    rw [hvalue, hpriority]
    exact h.eventValue t ht

theorem remove_none {x : Node} (h : k.pxContainer x = none) : k.remove x = k := by
  unfold remove
  rw [h]

theorem remove_some {x e : Node} (h : k.pxContainer x = some e) : k.remove x =
    { k with
      lists := (k.lists.call (.remove e x)).2
      pxContainer := Function.update k.pxContainer x none } := by
  unfold remove
  rw [h]

/-- The items of a task are in lists of two kinds, so the order in which they are taken out does not matter. -/
theorem remove_state_event (h : Base alive k) (t : Task) :
    (k.remove (.event t)).remove (.state t) = (k.remove (.state t)).remove (.event t) := by
  have hstate : (k.remove (.event t)).pxContainer (.state t) = k.pxContainer (.state t) := by simp
  have hevent : (k.remove (.state t)).pxContainer (.event t) = k.pxContainer (.event t) := by simp
  cases hs : k.pxContainer (.state t) with
  | none => rw [remove_none (hstate.trans hs), remove_none hs]
  | some e =>
      cases he : k.pxContainer (.event t) with
      | none => rw [remove_none he, remove_none (hevent.trans he)]
      | some e' =>
          have hne : e ≠ e' := by
            rintro rfl
            obtain ⟨n, rfl⟩ := h.wf.named _ e hs
            exact n.holds_one (h.kinds _ n hs) (h.kinds _ n he)
          rw [remove_some (hstate.trans hs), remove_some (hevent.trans he), remove_some hs, remove_some he]
          simp only [Contents.call, Function.update_of_ne hne, Function.update_of_ne hne.symm]
          rw [Function.update_comm hne, Function.update_comm (show (.state t : Node) ≠ .event t by simp)]

end Moves

end Kernel
end Freertos
end Obsw
