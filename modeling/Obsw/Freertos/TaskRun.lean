import Obsw.Freertos.TaskStart

/-!
# `Freertos.TaskRun` — runs of the scheduler

Any order of the calls of tasks and of interrupts, from the start of the scheduler. A step is what a call does with
interrupts disabled. The delay and the wait for an event are done with the scheduler suspended instead; interrupts
then leave the lists and items alone that they use. What a call does in several steps can be interrupted between any
two: `xTaskCreate` leaves its critical section before it looks at the priority of the new task, and the task that runs
it is kept until then (`creating`). So are the ticks that are counted, and the tick at which each task wakes.

Of `tasks.c` are left out: `vTaskDelete`, `vTaskPrioritySet`, the inheritance of priorities, notifications,
`vTaskMissedYield`, `xTaskAbortDelay`, and event lists that are not in the order of priorities.
-/

namespace Obsw
namespace Freertos

open Kernel

/-- The steps. `delay` is what `vTaskDelay` and `xTaskDelayUntil` do with the scheduler suspended, `create` and
    `yieldToNewTask` are the two parts of `xTaskCreate`. -/
inductive TaskCall where
  | tickISR
  | yield
  | suspendAll
  | resumeAll
  | delay (xTicksToWait : Nat)
  | placeOnEventList (pxEventList xTicksToWait : Nat)
  | removeFromEventList (pxEventList : Nat)
  | suspend (t : Task)
  | resetNextTaskUnblockTime
  | resume (t : Task)
  | resumeFromISR (t : Task)
  | create (t : Task) (uxPriority : Nat)
  | yieldToNewTask (t : Task)
  deriving DecidableEq, Repr

def Kernel.call (k : Kernel) : TaskCall → Option Kernel
  | .tickISR => k.vPortTickISR
  | .yield => k.vTaskSwitchContext
  | .suspendAll => some k.vTaskSuspendAll
  | .resumeAll => k.xTaskResumeAll.map Prod.fst
  | .delay xTicksToWait => some (k.prvAddCurrentTaskToDelayedList xTicksToWait false)
  | .placeOnEventList pxEventList xTicksToWait => some (k.vTaskPlaceOnEventList pxEventList xTicksToWait)
  | .removeFromEventList pxEventList => (k.xTaskRemoveFromEventList pxEventList).map Prod.fst
  | .suspend t => some (k.vTaskSuspend t)
  | .resetNextTaskUnblockTime => some k.prvResetNextTaskUnblockTime
  | .resume t => k.vTaskResume t
  | .resumeFromISR t => some (k.xTaskResumeFromISR t)
  | .create t uxPriority => some (k.xTaskCreate t uxPriority)
  | .yieldToNewTask t => k.yieldToNewTask t

/-- The kernel, with the ticks it has counted, the ticks at which tasks wake, the tasks that were created, and, of
    those that are not through with that yet, who creates them. -/
structure System where
  kernel : Kernel
  ticks : Nat
  wake : Task → Nat
  alive : Task → Prop
  creating : Task → Option Task

namespace System

/-- What the callers keep to, which the kernel asserts or takes for granted: the count of suspensions does not wrap,
    the idle task does not block, a task that blocks is ready, a list that is woken has a task. -/
def May (idle : Task) (s : System) : TaskCall → Prop
  | .suspendAll => s.kernel.uxSchedulerSuspended + 1 < 2 ^ 32
  | .resumeAll => s.kernel.uxSchedulerSuspended ≠ 0
  | .delay xTicksToWait | .placeOnEventList _ xTicksToWait =>
      s.kernel.pxCurrentTCB ≠ idle ∧ (∃ p, s.kernel.InState s.kernel.pxCurrentTCB (.ready p)) ∧
        0 < xTicksToWait ∧ xTicksToWait < 2 ^ 32
  | .removeFromEventList pxEventList => s.kernel.items (.event pxEventList) ≠ []
  | .suspend t => t ≠ idle ∧ s.alive t
  | .create t _ => ¬ s.alive t
  | .yieldToNewTask t => s.creating t = some s.kernel.pxCurrentTCB
  | _ => True

/-- The system behind a call. -/
def after (s : System) (c : TaskCall) (k : Kernel) : System where
  kernel := k
  ticks :=
    match c with
    | .tickISR => if s.kernel.uxSchedulerSuspended = 0 then s.ticks + 1 else s.ticks
    | .resumeAll =>
        if s.kernel.uxSchedulerSuspended = 1 then s.ticks + s.kernel.xPendedTicks else s.ticks
    | _ => s.ticks
  wake :=
    match c with
    | .delay xTicksToWait | .placeOnEventList _ xTicksToWait =>
        Function.update s.wake s.kernel.pxCurrentTCB (s.ticks + xTicksToWait)
    | _ => s.wake
  alive :=
    match c with
    | .create t _ => fun u => u = t ∨ s.alive u
    | _ => s.alive
  creating :=
    match c with
    | .create t _ => Function.update s.creating t (some s.kernel.pxCurrentTCB)
    | .yieldToNewTask t => Function.update s.creating t none
    | _ => s.creating

/-- A step of the system. -/
def Step (idle : Task) (s : System) (c : TaskCall) (s' : System) : Prop :=
  s.May idle c ∧ ∃ k, s.kernel.call c = some k ∧ s' = s.after c k

/-- The system behind a call that does not fail. -/
def next (s : System) (c : TaskCall) : System := s.after c ((s.kernel.call c).getD s.kernel)

/-- A run. -/
inductive Run (idle : Task) (s : System) : List TaskCall → System → Prop
  | nil : Run idle s [] s
  | snoc {calls s' c s''} : Run idle s calls s' → Step idle s' c s'' → Run idle s (calls ++ [c]) s''

/-- The system once `main` has started the scheduler. -/
def started (created : List (Task × Nat)) (idle : Task) : System where
  kernel := vTaskStartScheduler created idle
  ticks := 0
  wake _ := 0
  alive t := t ∈ (created ++ [(idle, 0)]).map Prod.fst
  creating _ := none

/-- The system can come to this. -/
def Reachable (idle : Task) (s : System) : Prop :=
  ∃ created calls, ((created ++ [(idle, 0)]).map Prod.fst).Nodup ∧ Run idle (started created idle) calls s

/-- The invariant of the system. -/
def Inv (idle : Task) (s : System) : Prop := Kernel.Inv idle s.alive s.ticks s.wake s.creating s.kernel

/-- The calls with which the task that runs blocks. -/
def Blocks : TaskCall → Prop
  | .delay _ | .placeOnEventList _ _ => True
  | _ => False

/-- What a step does to the tasks it is not about. -/
inductive Moves (s : System) (c : TaskCall) (s' : System) : Prop
  | woken {p} (h : Woken s.kernel s'.kernel p)
      (hcause : ∀ t, p t → s.kernel.Waits t .pendingReady ∨ s.kernel.Delayed t ∧ s.wake t ≤ s'.ticks)
      (hdue : ∀ t, s.kernel.Delayed t → s.wake t ≤ s'.ticks → p t) (hwake : s'.wake = s.wake)
  | blocked {p} (hc : Blocks c) (hready : s.kernel.InState s.kernel.pxCurrentTCB (.ready p))
      (h : Others s.kernel.pxCurrentTCB s.kernel s'.kernel)
      (hwake : ∀ u, u ≠ s.kernel.pxCurrentTCB → s'.wake u = s.wake u)
  | removed {pxEventList t} (hc : c = .removeFromEventList pxEventList)
      (hhead : (s.kernel.items (.event pxEventList)).head? = some (.event t)) (h : Others t s.kernel s'.kernel)
      (hwake : s'.wake = s.wake)
  | suspended {t} (hc : c = .suspend t) (h : Others t s.kernel s'.kernel) (hwake : s'.wake = s.wake)
  | resumed {t} (hstate : s'.kernel = s.kernel ∨ s.kernel.InState t .suspended)
      (h : Others t s.kernel s'.kernel) (hwake : s'.wake = s.wake)
  | created {t} (halive : ¬ s.alive t) (h : Others t s.kernel s'.kernel) (hwake : s'.wake = s.wake)

/-- The kernel with the event item of a task that starts to wait. -/
def queued (s : System) : TaskCall → Kernel
  | .placeOnEventList pxEventList _ => s.kernel.insert (.event pxEventList) (.event s.kernel.pxCurrentTCB)
  | _ => s.kernel

/-- How often a call wraps the count of the pended ticks. -/
def pendedWrap (s : System) (c : TaskCall) : Nat := if c = .tickISR ∧ s.kernel.PendedFull then 1 else 0

/-- How often the calls of a run do. -/
def pendedWraps : System → List TaskCall → Nat
  | _, [] => 0
  | s, c :: calls => s.pendedWrap c + pendedWraps (s.next c) calls

/-- What a step keeps and changes. -/
structure Effect (idle : Task) (s : System) (c : TaskCall) (s' : System) : Prop where
  inv : s'.Inv idle
  moves : Moves s c s'
  counted : s'.ticks + s'.kernel.xPendedTicks + 2 ^ 32 * s.pendedWrap c =
    s.ticks + s.kernel.xPendedTicks + (if c = .tickISR then 1 else 0)
  dispatched : Dispatched s.kernel s'.kernel
  uxPriority : ∀ u, s.alive u → s'.kernel.uxPriority u = s.kernel.uxPriority u
  waiters : ∀ e, (s'.kernel.items (.event e)).Sublist ((s.queued c).items (.event e))

section Steps

variable {idle t u : Task} {s s' s'' : System} {c : TaskCall} {calls : List TaskCall}

theorem pendedWrap_of_ne (hc : c ≠ .tickISR) : s.pendedWrap c = 0 := if_neg fun h => hc h.1

theorem pendedWrap_tickISR : 2 ^ 32 * s.pendedWrap .tickISR = if s.kernel.PendedFull then 2 ^ 32 else 0 := by
  rw [pendedWrap]
  by_cases hfull : s.kernel.PendedFull
  · rw [if_pos ⟨rfl, hfull⟩, if_pos hfull, Nat.mul_one]
  · rw [if_neg fun h => hfull h.2, if_neg hfull, Nat.mul_zero]

/-- Ticks are conserved by a call that is no tick, if it leaves the sum. -/
theorem counted_of_ne {k : Kernel} (hc : c ≠ .tickISR)
    (h : (s.after c k).ticks + k.xPendedTicks = s.ticks + s.kernel.xPendedTicks) :
    (s.after c k).ticks + (s.after c k).kernel.xPendedTicks + 2 ^ 32 * s.pendedWrap c =
      s.ticks + s.kernel.xPendedTicks + (if c = .tickISR then 1 else 0) := by
  rw [pendedWrap_of_ne hc, if_neg hc]
  exact h

/-- **A step.** No call fails, the invariant is kept, and no tick is lost but by a wrap of the pended ones. -/
theorem Inv.call (h : s.Inv idle) (hmay : s.May idle c) :
    ∃ k, s.kernel.call c = some k ∧ Effect idle s c (s.after c k) := by
  have hinv : Kernel.Inv idle s.alive s.ticks s.wake s.creating s.kernel := h
  cases c with
  | tickISR =>
      obtain ⟨k, ticks', heq, hticks, hinv', hwoken, _, hcount, hdispatched⟩ := vPortTickISR_spec hinv
      have hafter : (s.after .tickISR k).ticks = ticks' := hticks.symm
      refine ⟨k, heq, ?_, .woken hwoken (fun t ht => ?_) (fun t ht hle => ?_) rfl, ?_, hdispatched,
        fun u _ => congrFun hwoken.uxPriority u, hwoken.waiters⟩
      · rw [Inv, hafter]
        exact hinv'
      · rw [hafter]
        exact Or.inr ht
      · rw [hafter] at hle
        exact ⟨ht, hle⟩
      · rw [hafter, pendedWrap_tickISR]
        exact hcount
  | yield =>
      obtain ⟨k, heq, hinv', hs, _, hpended, hdispatched, _⟩ :=
        hinv.core.switch s.creating hinv.settled hinv.running
      refine ⟨k, heq, hinv', .woken hs.woken (fun _ ht => ht.elim) (fun t ht hle => ?_) rfl, ?_, hdispatched,
        fun u _ => congrFun hs.uxPriority u, hs.woken.waiters⟩
      · exact absurd (hinv.core.not_late ht) (Nat.not_lt.mpr hle)
      · exact counted_of_ne (by simp) (congrArg (s.ticks + ·) hpended)
  | suspendAll =>
      have hs : SameTasks s.kernel s.kernel.vTaskSuspendAll := by constructor <;> intros <;> rfl
      refine ⟨_, rfl, ⟨hs.core hinv.core hinv.core.base.top, ⟨hinv.settled.pended, fun h0 => ?_⟩, hinv.preempts,
        hinv.running⟩, .woken hs.woken (fun _ ht => ht.elim) (fun t ht hle => ?_) rfl,
        counted_of_ne (by simp) rfl, Or.inl rfl, fun _ _ => rfl, hs.woken.waiters⟩
      · -- `May` keeps the count below its wrap, so it is not zero behind the call
        change (s.kernel.uxSchedulerSuspended + 1) % 2 ^ 32 = 0 at h0
        rw [Nat.mod_eq_of_lt hmay] at h0
        cases h0
      · exact absurd (hinv.core.not_late ht) (Nat.not_lt.mpr hle)
  | resumeAll =>
      obtain ⟨k, b, ticks', heq, hticks, hinv', hwoken, _, hcount, hdispatched, _⟩ :=
        xTaskResumeAll_spec hinv hmay
      have hafter : (s.after .resumeAll k).ticks = ticks' := hticks.symm
      refine ⟨k, by rw [Kernel.call, heq]; rfl, ?_, .woken hwoken (fun t ht => ?_) (fun t ht hle => ?_) rfl, ?_,
        hdispatched, fun u _ => congrFun hwoken.uxPriority u, hwoken.waiters⟩
      · rw [Inv, hafter]
        exact hinv'
      · rw [hafter]
        exact ht.imp_left And.right
      · rw [hafter] at hle
        exact Or.inr ⟨ht, hle⟩
      · refine counted_of_ne (by simp) ?_
        rw [hafter]
        exact hcount
  | delay xTicksToWait =>
      obtain ⟨hidle, ⟨p, hready⟩, hpos, hlt⟩ := hmay
      obtain ⟨hinv', ho, hsame, _, _, hwaiters⟩ := delay_spec hinv hidle hready hpos hlt
      exact ⟨_, rfl, hinv', .blocked trivial hready ho fun u hu => Function.update_of_ne hu _ _,
        counted_of_ne (by simp) (congrArg (s.ticks + ·) hsame.xPendedTicks), Or.inl hsame.pxCurrentTCB,
        fun u _ => congrFun hsame.uxPriority u, hwaiters⟩
  | placeOnEventList pxEventList xTicksToWait =>
      obtain ⟨hidle, ⟨p, hready⟩, hpos, hlt⟩ := hmay
      obtain ⟨hinv', ho, hsame, _, _, hwaiters⟩ := vTaskPlaceOnEventList_spec hinv hidle hready hpos hlt
      exact ⟨_, rfl, hinv', .blocked trivial hready ho fun u hu => Function.update_of_ne hu _ _,
        counted_of_ne (by simp) (congrArg (s.ticks + ·) hsame.xPendedTicks), Or.inl hsame.pxCurrentTCB,
        fun u _ => congrFun hsame.uxPriority u, hwaiters⟩
  | removeFromEventList pxEventList =>
      obtain ⟨t, k, xReturn, hhead, heq, hinv', ho, hsame, _, _, hwaiters⟩ :=
        xTaskRemoveFromEventList_spec hinv hmay
      exact ⟨k, by rw [Kernel.call, heq]; rfl, hinv', .removed rfl hhead ho rfl,
        counted_of_ne (by simp) (congrArg (s.ticks + ·) hsame.xPendedTicks), Or.inl hsame.pxCurrentTCB,
        fun u _ => congrFun hsame.uxPriority u, hwaiters⟩
  | suspend t =>
      obtain ⟨hinv', ho, hsame, _, _, hwaiters⟩ := vTaskSuspend_spec hinv hmay.1 hmay.2
      exact ⟨_, rfl, hinv', .suspended rfl ho rfl, counted_of_ne (by simp) (congrArg (s.ticks + ·) hsame.xPendedTicks),
        Or.inl hsame.pxCurrentTCB, fun u _ => congrFun hsame.uxPriority u, hwaiters⟩
  | resetNextTaskUnblockTime =>
      have hwoken : Woken s.kernel s.kernel.prvResetNextTaskUnblockTime fun _ => False :=
        ⟨rfl, fun _ ht => ht.elim, fun _ _ => ⟨rfl, rfl⟩, fun _ => List.Sublist.refl _⟩
      refine ⟨_, rfl, ⟨hinv.core.resetNextTaskUnblockTime,
        ⟨hinv.settled.pended, hinv.settled.running⟩, hinv.preempts, hinv.running⟩,
        .woken hwoken (fun _ ht => ht.elim) (fun t ht hle => ?_) rfl, counted_of_ne (by simp) rfl, Or.inl rfl,
        fun _ _ => rfl, hwoken.waiters⟩
      exact absurd (hinv.core.not_late ht) (Nat.not_lt.mpr hle)
  | resume t =>
      obtain ⟨k, heq, hinv', ho, hstate, hdispatched, hpended, hpriority, hwaiters⟩ := vTaskResume_spec hinv t
      exact ⟨k, heq, hinv', .resumed hstate ho rfl, counted_of_ne (by simp) (congrArg (s.ticks + ·) hpended),
        hdispatched,
        fun u _ => congrFun hpriority u, hwaiters⟩
  | resumeFromISR t =>
      obtain ⟨hinv', ho, hstate, hsame, hwaiters⟩ := xTaskResumeFromISR_spec hinv t
      exact ⟨_, rfl, hinv', .resumed hstate ho rfl, counted_of_ne (by simp) (congrArg (s.ticks + ·) hsame.xPendedTicks),
        Or.inl hsame.pxCurrentTCB, fun u _ => congrFun hsame.uxPriority u, hwaiters⟩
  | create t uxPriority =>
      obtain ⟨hinv', ho, hwaiters⟩ := xTaskCreate_spec hinv hmay uxPriority
      refine ⟨_, rfl, hinv', .created hmay ho rfl, counted_of_ne (by simp) rfl, Or.inl rfl, fun u hu => ?_,
        fun e => hwaiters e ▸ List.Sublist.refl _⟩
      refine ho.uxPriority u ?_
      rintro rfl
      exact hmay hu
  | yieldToNewTask t =>
      obtain ⟨k, heq, hinv', hs, _, hpended, hdispatched⟩ := yieldToNewTask_spec hinv t
      refine ⟨k, heq, hinv', .woken hs.woken (fun _ ht => ht.elim) (fun t ht hle => ?_) rfl,
        counted_of_ne (by simp) (congrArg (s.ticks + ·) hpended), hdispatched, fun u _ => congrFun hs.uxPriority u,
        hs.woken.waiters⟩
      exact absurd (hinv.core.not_late ht) (Nat.not_lt.mpr hle)

theorem Step.effect (hstep : Step idle s c s') (h : s.Inv idle) : Effect idle s c s' := by
  obtain ⟨hmay, k, heq, rfl⟩ := hstep
  obtain ⟨k', heq', heffect⟩ := h.call hmay
  rw [heq, Option.some.injEq] at heq'
  exact heq' ▸ heffect

theorem Run.append {calls' : List TaskCall} (hrun : Run idle s calls s') (hrun' : Run idle s' calls' s'') :
    Run idle s (calls ++ calls') s'' := by
  induction hrun' with
  | nil => exact (List.append_nil calls).symm ▸ hrun
  | snoc _ hstep ih => exact List.append_assoc _ _ _ ▸ ih.snoc hstep

theorem Run.inv (hrun : Run idle s calls s') (h : s.Inv idle) : s'.Inv idle := by
  induction hrun with
  | nil => exact h
  | snoc _ hstep ih => exact (hstep.effect ih).inv

theorem Reachable.inv (h : Reachable idle s) : s.Inv idle := by
  obtain ⟨created, calls, hnodup, hrun⟩ := h
  exact hrun.inv (inv_vTaskStartScheduler created idle hnodup)

theorem Step.next_eq (hstep : Step idle s c s') : s.next c = s' := by
  obtain ⟨_, k, heq, rfl⟩ := hstep
  rw [next, heq, Option.getD_some]

/-- A call that may come has a step. -/
theorem Inv.next (h : s.Inv idle) (hmay : s.May idle c) : Step idle s c (s.next c) ∧ (s.next c).Inv idle := by
  obtain ⟨k, heq, heffect⟩ := h.call hmay
  have hstep : Step idle s c (s.after c k) := ⟨hmay, k, heq, rfl⟩
  rw [hstep.next_eq]
  exact ⟨hstep, heffect.inv⟩

/-- Two tasks of one priority, and the idle task: the second one runs first. -/
def twoTasks : System := started [(1, 2), (2, 2)] 0

theorem reachable_twoTasks : Reachable 0 twoTasks := ⟨_, [], by decide, .nil⟩

/-- Who is delayed stays so until its tick, unless it is woken or suspended. -/
theorem Step.delayed (hstep : Step idle s c s') (h : s.Inv idle) (ht : s.kernel.Delayed t)
    (hevent : ¬ s.kernel.Waits t .pendingReady) (hc : c ≠ .suspend t) :
    (s'.kernel.Delayed t ∧ s'.kernel.pxContainer (.event t) = s.kernel.pxContainer (.event t) ∧
        s'.wake t = s.wake t ∧ s'.ticks < s.wake t) ∨
      (s.wake t ≤ s'.ticks ∧ s'.kernel.InState t (.ready (s.kernel.uxPriority t)) ∧
        s'.kernel.pxContainer (.event t) = none) ∨
      ∃ e, c = .removeFromEventList e ∧ (s.kernel.items (.event e)).head? = some (.event t) := by
  have hinv : Kernel.Inv idle s.alive s.ticks s.wake s.creating s.kernel := h
  have hinv' : Kernel.Inv idle s'.alive s'.ticks s'.wake s'.creating s'.kernel := (hstep.effect h).inv
  -- where it stays it is delayed
  have hstays : s'.kernel.pxContainer (.state t) = s.kernel.pxContainer (.state t) → s'.wake t = s.wake t →
      s'.kernel.Delayed t ∧ s'.ticks < s.wake t := by
    intro hstate hwake
    have hdelayed : s'.kernel.Delayed t := by
      rw [hinv.core.base.delayed_iff] at ht
      rw [hinv'.core.base.delayed_iff, InState, InState, hstate]
      exact ht
    exact ⟨hdelayed, hwake ▸ hinv'.core.not_late hdelayed⟩
  have hothers : ∀ {u}, t ≠ u → Others u s.kernel s'.kernel → s'.wake t = s.wake t →
      s'.kernel.Delayed t ∧ s'.kernel.pxContainer (.event t) = s.kernel.pxContainer (.event t) ∧
        s'.wake t = s.wake t ∧ s'.ticks < s.wake t := by
    intro u hne ho hwake
    obtain ⟨hdelayed, hlate⟩ := hstays (ho.state t hne) hwake
    exact ⟨hdelayed, ho.event t hne, hwake, hlate⟩
  cases (hstep.effect h).moves with
  | @woken p hw hcause hdue hwake =>
      by_cases hpt : p t
      · have hle := ((hcause t hpt).resolve_left hevent).2
        exact Or.inr (Or.inl ⟨hle, hw.left t hpt⟩)
      · obtain ⟨hstate, hev⟩ := hw.stayed t hpt
        obtain ⟨hdelayed, hlate⟩ := hstays hstate (congrFun hwake t)
        exact Or.inl ⟨hdelayed, hev, congrFun hwake t, hlate⟩
  | @blocked p _ hready ho hwake =>
      have hne : t ≠ s.kernel.pxCurrentTCB := by
        rintro rfl
        exact hinv.core.not_blocked hready (Or.inl ht)
      exact Or.inl (hothers hne ho (hwake t hne))
  | @removed e u hce hhead ho hwake =>
      by_cases htu : t = u
      · subst htu
        exact Or.inr (Or.inr ⟨e, hce, hhead⟩)
      · exact Or.inl (hothers htu ho (congrFun hwake t))
  | @suspended u hce ho hwake =>
      have hne : t ≠ u := by
        rintro rfl
        exact hc hce
      exact Or.inl (hothers hne ho (congrFun hwake t))
  | @resumed u hstate ho hwake =>
      rcases hstate with heq | hstate
      · obtain ⟨hdelayed, hlate⟩ := hstays (by rw [heq]) (congrFun hwake t)
        exact Or.inl ⟨hdelayed, by rw [heq], congrFun hwake t, hlate⟩
      · have hne : t ≠ u := by
          rintro rfl
          rw [hinv.core.base.delayed_iff] at ht
          rcases ht with ht | ht <;> cases ht.unique hstate
        exact Or.inl (hothers hne ho (congrFun hwake t))
  | @created u halive ho hwake =>
      have hne : t ≠ u := by
        rintro rfl
        rcases ht with ht | ht <;> exact halive (hinv.core.known ht)
      exact Or.inl (hothers hne ho (congrFun hwake t))

/-- The step that ends the wait of a task: its tick comes, or its event. -/
def Ends (t : Task) (wake : Nat) (s : System) (c : TaskCall) (s' : System) : Prop :=
  s.kernel.Delayed t ∧ s.ticks < wake ∧
    (wake ≤ s'.ticks ∧ s'.kernel.InState t (.ready (s.kernel.uxPriority t)) ∧
        s'.kernel.pxContainer (.event t) = none ∨
      ∃ e, c = .removeFromEventList e ∧ (s.kernel.items (.event e)).head? = some (.event t))

/-- A task sleeps until a step ends its wait. -/
theorem Run.delayed (hrun : Run idle s calls s') (h : s.Inv idle) (ht : s.kernel.Delayed t)
    (hevent : ¬ s.kernel.Waits t .pendingReady) (hcalls : .suspend t ∉ calls) :
    (s'.kernel.Delayed t ∧ s'.kernel.pxContainer (.event t) = s.kernel.pxContainer (.event t) ∧
        s'.wake t = s.wake t ∧ s'.ticks < s.wake t) ∨
      ∃ calls₁ c calls₂ s₁ s₂, calls = calls₁ ++ c :: calls₂ ∧ Run idle s calls₁ s₁ ∧ Step idle s₁ c s₂ ∧
        Run idle s₂ calls₂ s' ∧ s₁.kernel.pxContainer (.event t) = s.kernel.pxContainer (.event t) ∧
        Ends t (s.wake t) s₁ c s₂ := by
  induction hrun with
  | nil => exact Or.inl ⟨ht, rfl, rfl, (show Kernel.Inv _ _ _ _ _ _ from h).core.not_late ht⟩
  | @snoc calls s₁ c s₂ hrun hstep ih =>
      rw [List.mem_append, not_or, List.mem_singleton] at hcalls
      rcases ih hcalls.1 with ⟨ht₁, hevent₁, hwake₁, hlate₁⟩ |
        ⟨calls₁, c', calls₂, s₃, s₄, rfl, hrun₁, hstep₁, hrun₂, hends⟩
      · have hpending : ¬ s₁.kernel.Waits t .pendingReady := by
          rw [Waits, hevent₁]
          exact hevent
        rcases hstep.delayed (hrun.inv h) ht₁ hpending (Ne.symm hcalls.2) with
          ⟨ht₂, hevent₂, hwake₂, hlate₂⟩ | ⟨hdue, hready, hnone⟩ | hremoved
        · rw [hwake₁] at hlate₂
          exact Or.inl ⟨ht₂, hevent₂.trans hevent₁, hwake₂.trans hwake₁, hlate₂⟩
        · rw [hwake₁] at hdue
          exact Or.inr ⟨calls, c, [], s₁, s₂, rfl, hrun, hstep, .nil, hevent₁, ht₁, hlate₁, Or.inl ⟨hdue, hready, hnone⟩⟩
        · exact Or.inr ⟨calls, c, [], s₁, s₂, rfl, hrun, hstep, .nil, hevent₁, ht₁, hlate₁, Or.inr hremoved⟩
      · exact Or.inr ⟨calls₁, c', calls₂ ++ [c], s₃, s₄, by simp, hrun₁, hstep₁, hrun₂.snoc hstep, hends⟩

theorem Step.delay {xTicksToWait : Nat} (hstep : Step idle s (.delay xTicksToWait) s') (h : s.Inv idle) :
    s'.kernel.Delayed s.kernel.pxCurrentTCB ∧ s'.kernel.pxContainer (.event s.kernel.pxCurrentTCB) = none ∧
      s'.wake s.kernel.pxCurrentTCB = s.ticks + xTicksToWait := by
  obtain ⟨⟨hidle, ⟨p, hready⟩, hpos, hlt⟩, k, heq, rfl⟩ := hstep
  obtain rfl := Option.some.inj heq
  obtain ⟨_, _, _, hdelayed, hnone, _⟩ := delay_spec h hidle hready hpos hlt
  exact ⟨hdelayed, hnone, Function.update_self _ _ _⟩

theorem Step.placeOnEventList {pxEventList xTicksToWait : Nat}
    (hstep : Step idle s (.placeOnEventList pxEventList xTicksToWait) s') (h : s.Inv idle) :
    s'.kernel.Waits s.kernel.pxCurrentTCB (.event pxEventList) ∧
      (xTicksToWait ≠ portMAX_DELAY → s'.kernel.Delayed s.kernel.pxCurrentTCB) ∧
      s'.wake s.kernel.pxCurrentTCB = s.ticks + xTicksToWait := by
  obtain ⟨⟨hidle, ⟨p, hready⟩, hpos, hlt⟩, k, heq, rfl⟩ := hstep
  obtain rfl := Option.some.inj heq
  obtain ⟨_, _, _, hwaits, hdelayed, _⟩ := vTaskPlaceOnEventList_spec h hidle hready hpos hlt
  exact ⟨hwaits, hdelayed, Function.update_self _ _ _⟩

theorem Inv.head_waits (h : s.Inv idle) {e : Nat} (hhead : (s.kernel.items (.event e)).head? = some (.event t)) :
    s.kernel.Waits t (.event e) :=
  (Core.base (Kernel.Inv.core h)).wf.mem _ _ |>.mp (List.mem_of_mem_head? hhead)

/-- A task that waits for no event sleeps until its tick. -/
theorem Run.sleeps (hrun : Run idle s calls s') (h : s.Inv idle) (ht : s.kernel.Delayed t)
    (hnone : s.kernel.pxContainer (.event t) = none) (hcalls : .suspend t ∉ calls) :
    (s'.ticks < s.wake t ∧ s'.kernel.Delayed t) ∨
      ∃ calls₁ c calls₂ s₁ s₂, calls = calls₁ ++ c :: calls₂ ∧ Run idle s calls₁ s₁ ∧ Step idle s₁ c s₂ ∧
        Run idle s₂ calls₂ s' ∧ s₁.ticks < s.wake t ∧ s₁.kernel.Delayed t ∧ s.wake t ≤ s₂.ticks ∧
        s₂.kernel.InState t (.ready (s₁.kernel.uxPriority t)) := by
  have hpending : ¬ s.kernel.Waits t .pendingReady := fun ht => by cases hnone.symm.trans ht
  rcases hrun.delayed h ht hpending hcalls with
    ⟨ht', _, _, hlate⟩ | ⟨calls₁, c, calls₂, s₁, s₂, rfl, hrun₁, hstep, hrun₂, hevent, hends⟩
  · exact Or.inl ⟨hlate, ht'⟩
  · obtain ⟨hdelayed₁, hlate, ⟨hdue, hready₂, _⟩ | ⟨e, _, hhead⟩⟩ := hends
    · exact Or.inr ⟨calls₁, c, calls₂, s₁, s₂, rfl, hrun₁, hstep, hrun₂, hlate, hdelayed₁, hdue, hready₂⟩
    · -- it waits for no event
      have hwaits := (hrun₁.inv h).head_waits hhead
      cases (hevent.trans hnone).symm.trans hwaits

/-- **A delay is exact.** A task that blocks at the tick `T` for `n` ticks, and is not suspended meanwhile, is
    delayed as long as fewer than `T + n` ticks are counted, and ready when the tick `T + n` is, through any order
    of calls and any number of wraps. -/
theorem vTaskDelay_exact {xTicksToWait : Nat} {s₀ : System} (hs : Reachable idle s)
    (hdelay : Step idle s (.delay xTicksToWait) s₀) (hrun : Run idle s₀ calls s')
    (hcalls : .suspend s.kernel.pxCurrentTCB ∉ calls) :
    (s'.ticks < s.ticks + xTicksToWait ∧ s'.kernel.Delayed s.kernel.pxCurrentTCB) ∨
      ∃ calls₁ c calls₂ s₁ s₂, calls = calls₁ ++ c :: calls₂ ∧ Run idle s₀ calls₁ s₁ ∧ Step idle s₁ c s₂ ∧
        Run idle s₂ calls₂ s' ∧ s₁.ticks < s.ticks + xTicksToWait ∧ s₁.kernel.Delayed s.kernel.pxCurrentTCB ∧
        s.ticks + xTicksToWait ≤ s₂.ticks ∧
        s₂.kernel.InState s.kernel.pxCurrentTCB (.ready (s₁.kernel.uxPriority s.kernel.pxCurrentTCB)) := by
  have hinv₀ := (hdelay.effect hs.inv).inv
  obtain ⟨hdelayed, hnone, hwake⟩ := hdelay.delay hs.inv
  rw [← hwake]
  exact hrun.sleeps hinv₀ hdelayed hnone hcalls

/-- The first task goes on, keeps the scheduler suspended for two ticks, and one more comes. -/
def threeTicks : List TaskCall := [.yield, .suspendAll, .tickISR, .tickISR, .resumeAll, .tickISR]

theorem run_threeTicks (h : s.Inv idle) (hsuspend : (s.next .yield).kernel.uxSchedulerSuspended + 1 < 2 ^ 32)
    (hresume : ((((s.next .yield).next .suspendAll).next .tickISR).next .tickISR).kernel.uxSchedulerSuspended ≠ 0) :
    Run idle s threeTicks (threeTicks.foldl System.next s) := by
  obtain ⟨hyield, h₁⟩ := h.next (c := .yield) trivial
  obtain ⟨hsuspendAll, h₂⟩ := h₁.next (c := .suspendAll) hsuspend
  obtain ⟨htick₁, h₃⟩ := h₂.next (c := .tickISR) trivial
  obtain ⟨htick₂, h₄⟩ := h₃.next (c := .tickISR) trivial
  obtain ⟨hresumeAll, h₅⟩ := h₄.next (c := .resumeAll) hresume
  obtain ⟨htick₃, _⟩ := h₅.next (c := .tickISR) trivial
  exact (((((Run.nil.snoc hyield).snoc hsuspendAll).snoc htick₁).snoc htick₂).snoc hresumeAll).snoc htick₃

/-- The second task is delayed for three ticks, two of them pended. -/
theorem twoTasks_delay : ∃ s₀ s', Step 0 twoTasks (.delay 3) s₀ ∧ Run 0 s₀ threeTicks s' ∧
    ∃ calls₁ c calls₂ s₁ s₂, threeTicks = calls₁ ++ c :: calls₂ ∧ Run 0 s₀ calls₁ s₁ ∧ Step 0 s₁ c s₂ ∧
      Run 0 s₂ calls₂ s' ∧ s₁.ticks < 3 ∧ s₁.kernel.Delayed 2 ∧ 3 ≤ s₂.ticks ∧
      s₂.kernel.InState 2 (.ready (s₁.kernel.uxPriority 2)) := by
  obtain ⟨hstep, hinv₀⟩ := reachable_twoTasks.inv.next (c := .delay 3) ⟨by decide, ⟨2, rfl⟩, by decide, by decide⟩
  have hrun := run_threeTicks hinv₀ (by decide) (by decide)
  have hticks : (threeTicks.foldl System.next (twoTasks.next (.delay 3))).ticks = 3 := by decide
  rcases vTaskDelay_exact reachable_twoTasks hstep hrun (by decide) with ⟨hlate, _⟩ | hwoken
  · rw [hticks] at hlate
    exact absurd hlate (Nat.lt_irrefl 3)
  · exact ⟨_, _, hstep, hrun, hwoken⟩

/-- **A wait for an event ends in time.** A task that waits for an event for `n` ticks from the tick `T` on, and is
    not suspended meanwhile, waits until it is woken as the first in the list, at a tick before `T + n`, or else
    until the tick `T + n` is counted; then it is ready and no longer in the list. -/
theorem placeOnEventList_exact {pxEventList xTicksToWait : Nat} {s₀ : System} (hs : Reachable idle s)
    (hplace : Step idle s (.placeOnEventList pxEventList xTicksToWait) s₀) (htime : xTicksToWait ≠ portMAX_DELAY)
    (hrun : Run idle s₀ calls s') (hcalls : .suspend s.kernel.pxCurrentTCB ∉ calls) :
    (s'.ticks < s.ticks + xTicksToWait ∧ s'.kernel.Delayed s.kernel.pxCurrentTCB ∧
        s'.kernel.Waits s.kernel.pxCurrentTCB (.event pxEventList)) ∨
      ∃ calls₁ c calls₂ s₁ s₂, calls = calls₁ ++ c :: calls₂ ∧ Run idle s₀ calls₁ s₁ ∧ Step idle s₁ c s₂ ∧
        Run idle s₂ calls₂ s' ∧ s₁.ticks < s.ticks + xTicksToWait ∧
        s₁.kernel.Waits s.kernel.pxCurrentTCB (.event pxEventList) ∧
        (s.ticks + xTicksToWait ≤ s₂.ticks ∧
            s₂.kernel.InState s.kernel.pxCurrentTCB (.ready (s₁.kernel.uxPriority s.kernel.pxCurrentTCB)) ∧
            s₂.kernel.pxContainer (.event s.kernel.pxCurrentTCB) = none ∨
          c = .removeFromEventList pxEventList ∧
            (s₁.kernel.items (.event pxEventList)).head? = some (.event s.kernel.pxCurrentTCB)) := by
  have hinv₀ := (hplace.effect hs.inv).inv
  obtain ⟨hwaits, hdelayed, hwake⟩ := hplace.placeOnEventList hs.inv
  have hpending : ¬ s₀.kernel.Waits s.kernel.pxCurrentTCB .pendingReady :=
    fun ht => by cases hwaits.symm.trans ht
  rcases hrun.delayed hinv₀ (hdelayed htime) hpending hcalls with
    ⟨ht, hevent, _, hlate⟩ | ⟨calls₁, c, calls₂, s₁, s₂, rfl, hrun₁, hstep, hrun₂, hevent, hends⟩
  · exact Or.inl ⟨hwake ▸ hlate, ht, hevent.trans hwaits⟩
  · rw [hwake] at hends
    have hwaits₁ := hevent.trans hwaits
    obtain ⟨hdelayed₁, hlate, ⟨hdue, hready₂, hnone⟩ | ⟨e, hc, hhead⟩⟩ := hends
    · exact Or.inr ⟨calls₁, c, calls₂, s₁, s₂, rfl, hrun₁, hstep, hrun₂, hlate, hwaits₁,
        Or.inl ⟨hdue, hready₂, hnone⟩⟩
    · have hlist := hwaits₁.symm.trans ((hrun₁.inv hinv₀).head_waits hhead)
      obtain rfl := ListName.event.inj (Node.list.inj (Option.some.inj hlist))
      exact Or.inr ⟨calls₁, c, calls₂, s₁, s₂, rfl, hrun₁, hstep, hrun₂, hlate, hwaits₁, Or.inr ⟨hc, hhead⟩⟩

/-- The second task waits for an event, for three ticks, two of them pended. -/
theorem twoTasks_wait : ∃ s₀ s', Step 0 twoTasks (.placeOnEventList 7 3) s₀ ∧ Run 0 s₀ threeTicks s' ∧
    ∃ calls₁ c calls₂ s₁ s₂, threeTicks = calls₁ ++ c :: calls₂ ∧ Run 0 s₀ calls₁ s₁ ∧ Step 0 s₁ c s₂ ∧
      Run 0 s₂ calls₂ s' ∧ s₁.ticks < 3 ∧ s₁.kernel.Waits 2 (.event 7) ∧
      (3 ≤ s₂.ticks ∧ s₂.kernel.InState 2 (.ready (s₁.kernel.uxPriority 2)) ∧
          s₂.kernel.pxContainer (.event 2) = none ∨
        c = .removeFromEventList 7 ∧ (s₁.kernel.items (.event 7)).head? = some (.event 2)) := by
  obtain ⟨hstep, hinv₀⟩ := reachable_twoTasks.inv.next (c := .placeOnEventList 7 3)
    ⟨by decide, ⟨2, rfl⟩, by decide, by decide⟩
  have hrun := run_threeTicks hinv₀ (by decide) (by decide)
  have hticks : (threeTicks.foldl System.next (twoTasks.next (.placeOnEventList 7 3))).ticks = 3 := by decide
  rcases placeOnEventList_exact reachable_twoTasks hstep (by decide) hrun (by decide) with ⟨hlate, _⟩ | hwoken
  · rw [hticks] at hlate
    exact absurd hlate (Nat.lt_irrefl 3)
  · exact ⟨_, _, hstep, hrun, hwoken⟩

/-! ### Safety -/

/-- The second task creates one of a higher priority, and has not looked at it yet. -/
def highTask : System := twoTasks.next (.create 3 5)

theorem step_highTask : Step 0 twoTasks (.create 3 5) highTask :=
  (reachable_twoTasks.inv.next (c := .create 3 5) (by simp [May, twoTasks, started])).1

/-- **The processor changes hands** only while the scheduler runs, and to a ready task of the highest priority. -/
theorem dispatched_highest (hs : Reachable idle s) (hstep : Step idle s c s')
    (hchanged : s'.kernel.pxCurrentTCB ≠ s.kernel.pxCurrentTCB) :
    s'.kernel.uxSchedulerSuspended = 0 ∧
      s'.kernel.InState s'.kernel.pxCurrentTCB (.ready (s'.kernel.uxPriority s'.kernel.pxCurrentTCB)) ∧
      ∀ t p, s'.kernel.InState t (.ready p) → p ≤ s'.kernel.uxPriority s'.kernel.pxCurrentTCB := by
  have heffect := hstep.effect hs.inv
  obtain ⟨hrunning, hchosen⟩ := heffect.dispatched.resolve_left hchanged
  exact ⟨hrunning, hchosen.ready, hchosen.highest⟩

theorem twoTasks_dispatched : ∃ s', Step 0 twoTasks .yield s' ∧ s'.kernel.pxCurrentTCB = 1 ∧
    ∀ t p, s'.kernel.InState t (.ready p) → p ≤ s'.kernel.uxPriority 1 := by
  have hstep := (reachable_twoTasks.inv.next (c := .yield) trivial).1
  have hcurrent : (twoTasks.next .yield).kernel.pxCurrentTCB = 1 := by decide
  obtain ⟨_, _, hhighest⟩ := dispatched_highest reachable_twoTasks hstep (by decide)
  rw [hcurrent] at hhighest
  exact ⟨_, hstep, hcurrent, hhighest⟩

/-! ### Ticks -/

theorem Run.pendedWraps_append (hrun : Run idle s calls s') (calls' : List TaskCall) :
    s.pendedWraps (calls ++ calls') = s.pendedWraps calls + s'.pendedWraps calls' := by
  induction hrun generalizing calls' with
  | nil => exact (Nat.zero_add _).symm
  | @snoc calls s₁ c s₂ _ hstep ih =>
      rw [List.append_assoc, ih, ih, List.singleton_append, pendedWraps, pendedWraps, hstep.next_eq, pendedWraps]
      omega

theorem Run.counted (hrun : Run idle s calls s') (h : s.Inv idle) :
    s'.ticks + s'.kernel.xPendedTicks + 2 ^ 32 * s.pendedWraps calls =
      s.ticks + s.kernel.xPendedTicks + calls.count .tickISR := by
  induction hrun with
  | nil => rfl
  | @snoc calls s₁ c s₂ hrun hstep ih =>
      have hcounted := (hstep.effect (hrun.inv h)).counted
      rw [hrun.pendedWraps_append, pendedWraps, pendedWraps, List.count_append, List.count_singleton]
      by_cases hc : c = .tickISR
      · rw [if_pos hc] at hcounted
        rw [if_pos (by rw [hc]; rfl)]
        omega
      · rw [if_neg hc] at hcounted
        rw [if_neg (by simpa using hc)]
        omega

/-- **No tick is lost** but by a wrap of the count of those that are pended, which takes `2 ^ 32` of them. Of the tick
    interrupts since the start, all others that are not pended are counted, modulo the range of the counter and with
    its wraps; when the scheduler runs, none is pended. -/
theorem ticks_conserved {created : List (Task × Nat)} (hnodup : ((created ++ [(idle, 0)]).map Prod.fst).Nodup)
    (hrun : Run idle (started created idle) calls s) :
    ∃ counted, counted + s.kernel.xPendedTicks + 2 ^ 32 * (started created idle).pendedWraps calls =
        calls.count .tickISR ∧
      s.kernel.xTickCount = counted % 2 ^ 32 ∧ s.kernel.xNumOfOverflows = counted / 2 ^ 32 % 2 ^ 32 ∧
      (s.kernel.uxSchedulerSuspended = 0 → s.kernel.xPendedTicks = 0) := by
  have hstart := inv_vTaskStartScheduler created idle hnodup
  have hinv : Kernel.Inv idle s.alive s.ticks s.wake s.creating s.kernel := hrun.inv hstart
  have hcounted := hrun.counted hstart
  have hzero : (started created idle).kernel.xPendedTicks = 0 :=
    vTaskStartScheduler_pended created idle
  refine ⟨s.ticks, ?_, hinv.core.timed.tick, hinv.core.timed.overflows, fun hrunning =>
    (hinv.settled.running hrunning).2⟩
  rw [hcounted, hzero]
  exact Nat.zero_add _

theorem twoTasks_ticks : Run 0 twoTasks threeTicks (threeTicks.foldl System.next twoTasks) ∧
    ∃ counted, counted + (threeTicks.foldl System.next twoTasks).kernel.xPendedTicks +
        2 ^ 32 * twoTasks.pendedWraps threeTicks = 3 ∧
      (threeTicks.foldl System.next twoTasks).kernel.xTickCount = counted % 2 ^ 32 ∧
      (threeTicks.foldl System.next twoTasks).kernel.xNumOfOverflows = counted / 2 ^ 32 % 2 ^ 32 ∧
      ((threeTicks.foldl System.next twoTasks).kernel.uxSchedulerSuspended = 0 →
        (threeTicks.foldl System.next twoTasks).kernel.xPendedTicks = 0) := by
  have hrun := run_threeTicks reachable_twoTasks.inv (by decide) (by decide)
  exact ⟨hrun, ticks_conserved (by decide) hrun⟩

/-! ### The order of those that wait -/

/-- Both wait for the event, the one in front of the other. -/
def Ahead (s : System) (e : Nat) (t u : Task) : Prop :=
  [Node.event t, Node.event u].Sublist (s.kernel.items (.event e))

theorem Inv.alive_of_waits (h : s.Inv idle) {n : ListName} (ht : s.kernel.Waits t n) : s.alive t := by
  have hinv : Kernel.Inv idle s.alive s.ticks s.wake s.creating s.kernel := h
  rcases hinv.core.waiting t n ht with (hb | hb) | hb <;> exact hinv.core.known hb

/-- Who starts to wait goes behind those of its priority and above. -/
theorem Inv.queued (h : s.Inv idle) (hmay : s.May idle c) (e : Nat) : ((s.queued c).items (.event e)).Nodup ∧
    (s.kernel.items (.event e)).Sublist ((s.queued c).items (.event e)) ∧
    (∀ u, (.event u : Node) ∈ (s.queued c).items (.event e) → s.alive u) ∧
    ∀ t u, s.kernel.Waits t (.event e) → ¬ s.kernel.Waits u (.event e) →
      (.event u : Node) ∈ (s.queued c).items (.event e) → s.kernel.uxPriority u ≤ s.kernel.uxPriority t →
      [Node.event t, Node.event u].Sublist ((s.queued c).items (.event e)) := by
  have hinv : Kernel.Inv idle s.alive s.ticks s.wake s.creating s.kernel := h
  have hmem := fun x => hinv.core.base.wf.mem x (.event e)
  cases c with
  | placeOnEventList pxEventList xTicksToWait =>
      obtain ⟨_, ⟨p, hready⟩, _⟩ := hmay
      have hnone := hinv.core.not_waits hready
      have hwf := hinv.core.base.wf.insert (n := .event pxEventList) hnone
      refine ⟨hwf.nodup _, ?_, fun u huq => ?_, fun t u ht hu huq hpriority => ?_⟩
      · show List.Sublist _ ((s.kernel.insert _ _).items (.event e))
        rw [insert_items]
        split_ifs with heq
        · obtain rfl := ListName.event.inj heq
          exact Rounds.items_sublist_insert _ _ _
        · exact List.Sublist.refl _
      · change (.event u : Node) ∈ (s.kernel.insert _ _).items (.event e) at huq
        rw [insert_items] at huq
        split_ifs at huq with heq
        · obtain rfl := ListName.event.inj heq
          rcases Rounds.mem_items_insert.mp huq with hcurrent | hold
          · rw [Node.event.inj hcurrent]
            exact hinv.running
          · exact h.alive_of_waits ((hmem _).mp hold)
        · exact h.alive_of_waits ((hmem _).mp huq)
      · change (.event u : Node) ∈ (s.kernel.insert _ _).items (.event e) at huq
        show List.Sublist _ ((s.kernel.insert _ _).items (.event e))
        rw [insert_items] at huq ⊢
        split_ifs at huq ⊢ with heq
        · obtain rfl := ListName.event.inj heq
          have hcurrent := (Rounds.mem_items_insert.mp huq).resolve_right fun hold => hu ((hmem _).mp hold)
          rw [hcurrent]
          refine Rounds.behind_insert (hinv.core.base.sorted (.event e) trivial) ((hmem _).mpr ht) ?_
          rw [hinv.core.base.eventValue t (h.alive_of_waits ht), hinv.core.base.eventValue _ hinv.running,
            ← Node.event.inj hcurrent]
          omega
        · exact absurd ((hmem _).mp huq) hu
  | _ =>
      exact ⟨hinv.core.base.wf.nodup _, List.Sublist.refl _, fun u huq => h.alive_of_waits ((hmem _).mp huq),
        fun t u _ hu huq _ => absurd ((hmem _).mp huq) hu⟩

theorem Step.ahead (hstep : Step idle s c s') (h : s.Inv idle) {e : Nat} (ht : s.kernel.Waits t (.event e))
    (ht' : s'.kernel.Waits t (.event e)) (hahead : s.kernel.Waits u (.event e) →
      s.kernel.uxPriority u ≤ s.kernel.uxPriority t → Ahead s e t u)
    (hu' : s'.kernel.Waits u (.event e)) (hpriority : s'.kernel.uxPriority u ≤ s'.kernel.uxPriority t) :
    Ahead s' e t u := by
  have heffect := hstep.effect h
  have hinv' : Kernel.Inv idle s'.alive s'.ticks s'.wake s'.creating s'.kernel := heffect.inv
  obtain ⟨hnodup, hsub, halive, hnew⟩ := h.queued hstep.1 e
  have hu := (hinv'.core.base.wf.mem _ _).mpr hu'
  have huq := (heffect.waiters e).subset hu
  rw [heffect.uxPriority t (h.alive_of_waits ht), heffect.uxPriority u (halive u huq)] at hpriority
  refine Rounds.sublist_pair (heffect.waiters e) hnodup ((hinv'.core.base.wf.mem _ _).mpr ht') hu ?_
  by_cases hwaits : s.kernel.Waits u (.event e)
  · exact (hahead hwaits hpriority).trans hsub
  · exact hnew t u ht hwaits huq hpriority

/-- A step at which the task goes on waiting. -/
def StillWaits (idle : Task) (t : Task) (e : Nat) (s s' : System) : Prop :=
  (∃ c, Step idle s c s') ∧ s'.kernel.Waits t (.event e)

/-- **Nobody is overtaken.** Who starts to wait for an event while a task of its priority or above waits for it is
    not woken before that task, whatever else waits, times out or is suspended. -/
theorem no_overtaking {e : Nat} (hs : Reachable idle s) (ht : s.kernel.Waits t (.event e))
    (hu : ¬ s.kernel.Waits u (.event e)) (hrun : Relation.ReflTransGen (StillWaits idle t e) s s')
    (hpriority : s'.kernel.uxPriority u ≤ s'.kernel.uxPriority t) :
    (s'.kernel.items (.event e)).head? ≠ some (.event u) := by
  have hkept : s'.Inv idle ∧ s'.kernel.Waits t (.event e) ∧
      (s'.kernel.Waits u (.event e) → s'.kernel.uxPriority u ≤ s'.kernel.uxPriority t → Ahead s' e t u) := by
    clear hpriority
    induction hrun with
    | refl => exact ⟨hs.inv, ht, fun hwaits => absurd hwaits hu⟩
    | tail hrun hstep ih =>
        obtain ⟨⟨c, hstep⟩, ht'⟩ := hstep
        obtain ⟨hinv, ht, hahead⟩ := ih
        exact ⟨(hstep.effect hinv).inv, ht', fun hu' hle => hstep.ahead hinv ht ht' hahead hu' hle⟩
  obtain ⟨hinv, ht', hahead⟩ := hkept
  intro hhead
  have hu' := hinv.head_waits hhead
  have hpair := hahead hu' hpriority
  have hnodup := (Kernel.Inv.core hinv).base.wf.nodup (.event e)
  have hne : (.event t : Node) ≠ .event u := by
    rintro heq
    exact hu (Node.event.inj heq ▸ ht)
  unfold Ahead at hpair
  cases hitems : s'.kernel.items (.event e) with
  | nil =>
      rw [hitems] at hhead
      cases hhead
  | cons x l =>
      rw [hitems] at hhead hpair hnodup
      obtain rfl := Option.some.inj hhead
      rcases List.sublist_cons_iff.mp hpair with hpair | ⟨r, hr, _⟩
      · exact (List.nodup_cons.mp hnodup).1 (hpair.subset (List.mem_cons_of_mem _ List.mem_cons_self))
      · exact hne (List.cons_eq_cons.mp hr).1

/-- The second task waits for an event; then the first one runs, and waits for it as well. -/
def oneWaits : System := twoTasks.next (.placeOnEventList 7 5)

def oneWaitsOneRuns : System := oneWaits.next .yield

def twoWait : System := oneWaitsOneRuns.next (.placeOnEventList 7 5)

theorem twoTasks_inOrder : Relation.ReflTransGen (StillWaits 0 2 7) oneWaits twoWait ∧
    (twoWait.kernel.items (.event 7)).head? ≠ some (.event 1) := by
  have hfirst : Step 0 twoTasks (.placeOnEventList 7 5) oneWaits :=
    ⟨⟨by decide, ⟨2, rfl⟩, by decide, by decide⟩, _, rfl, rfl⟩
  have hs : Reachable 0 oneWaits := ⟨[(1, 2), (2, 2)], _, by decide, Run.nil.snoc hfirst⟩
  have hyield : Step 0 oneWaits .yield oneWaitsOneRuns := ⟨trivial, _, rfl, rfl⟩
  have hplace : Step 0 oneWaitsOneRuns (.placeOnEventList 7 5) twoWait :=
    ⟨⟨by decide, ⟨2, rfl⟩, by decide, by decide⟩, _, rfl, rfl⟩
  have hrun : Relation.ReflTransGen (StillWaits 0 2 7) oneWaits twoWait :=
    (Relation.ReflTransGen.single ⟨⟨_, hyield⟩, rfl⟩).tail ⟨⟨_, hplace⟩, rfl⟩
  have hwaits : oneWaits.kernel.Waits 2 (.event 7) := rfl
  have hnot : ¬ oneWaits.kernel.Waits 1 (.event 7) := by
    intro ht
    cases ht
  exact ⟨hrun, no_overtaking hs hwaits hnot hrun (by decide)⟩

end Steps

end System
end Freertos
end Obsw
