import Obsw.Freertos.List

/-!
# `Freertos.Tasks` — the scheduler of the kernel

`tasks.c` as `boardconfig/FreeRTOSConfig.h` configures it: preemption with time slices, ten priorities, 32-bit
ticks, tasks that can be suspended. A task has two items, one for its state and one for the event it waits for;
they are in the lists of `list.c`, here without links (`list_refines`). Loops that end only with the lists are
given passes.
-/

namespace Obsw
namespace Freertos

abbrev Task := Nat

/-- The lists of the kernel. Which of the two delayed lists is the current one changes. -/
inductive ListName where
  | ready (uxPriority : Nat)
  | delayed1
  | delayed2
  | pendingReady
  | suspended
  | event (n : Nat)
  deriving DecidableEq, Repr

/-- The end markers of the lists, and the items `xStateListItem` and `xEventListItem` of the tasks. -/
inductive Node where
  | list (name : ListName)
  | state (t : Task)
  | event (t : Task)
  deriving DecidableEq, Repr

/-- `pvOwner`. -/
def Node.owner : Node → Task
  | .list _ => 0
  | .state t | .event t => t

/-- The variables of `tasks.c`. -/
structure Kernel where
  lists : Contents Node
  pxContainer : Node → Option Node
  uxPriority : Task → Nat
  pxDelayedTaskList : ListName
  pxOverflowDelayedTaskList : ListName
  pxCurrentTCB : Task
  xTickCount : Nat
  uxTopReadyPriority : Nat
  xPendedTicks : Nat
  xYieldPending : Bool
  xNumOfOverflows : Nat
  xNextTaskUnblockTime : Nat
  uxSchedulerSuspended : Nat

/-- `configMAX_PRIORITIES` -/
def configMAX_PRIORITIES : Nat := 10

namespace Kernel

variable (k : Kernel)

/-- The items of a list. -/
def items (n : ListName) : List Node := (k.lists.rounds (.list n)).items

/-- `listGET_LIST_ITEM_VALUE` -/
def value (x : Node) : Nat := k.lists.value x

/-- `vListInsertEnd` -/
def insertEnd (n : ListName) (x : Node) : Kernel :=
  { k with
    lists := (k.lists.call (.insertEnd (.list n) x)).2
    pxContainer := Function.update k.pxContainer x (some (.list n)) }

/-- `vListInsert` -/
def insert (n : ListName) (x : Node) : Kernel :=
  { k with
    lists := (k.lists.call (.insert (.list n) x)).2
    pxContainer := Function.update k.pxContainer x (some (.list n)) }

/-- `uxListRemove`; nothing for an item that is in no list. -/
def remove (x : Node) : Kernel :=
  match k.pxContainer x with
  | none => k
  | some e =>
    { k with
      lists := (k.lists.call (.remove e x)).2
      pxContainer := Function.update k.pxContainer x none }

/-- `listSET_LIST_ITEM_VALUE` -/
def setValue (x : Node) (v : Nat) : Kernel :=
  { k with lists := (k.lists.call (.setValue x v)).2 }

/-- `taskRECORD_READY_PRIORITY`. -/
def recordReadyPriority (uxPriority : Nat) : Kernel :=
  { k with
    uxTopReadyPriority := if k.uxTopReadyPriority < uxPriority then uxPriority else k.uxTopReadyPriority }

/-- `prvAddTaskToReadyList`. -/
def prvAddTaskToReadyList (t : Task) : Kernel :=
  (k.recordReadyPriority (k.uxPriority t)).insertEnd (.ready (k.uxPriority t)) (.state t)

/-- `prvResetNextTaskUnblockTime`. -/
def prvResetNextTaskUnblockTime : Kernel :=
  { k with
    xNextTaskUnblockTime :=
      match (k.items k.pxDelayedTaskList).head? with
      | none => portMAX_DELAY
      | some x => k.value x }

/-- `taskSWITCH_DELAYED_LISTS`. -/
def switchDelayedLists : Kernel :=
  { k with
    pxDelayedTaskList := k.pxOverflowDelayedTaskList
    pxOverflowDelayedTaskList := k.pxDelayedTaskList
    xNumOfOverflows := (k.xNumOfOverflows + 1) % 2 ^ 32 }.prvResetNextTaskUnblockTime

/-- The inner loop of `xTaskIncrementTick`: the tasks that are due become ready. -/
def unblockDue (xConstTickCount : Nat) : Nat → Kernel → Bool → Option (Kernel × Bool)
  | 0,          _, _ => none
  | passes + 1, k, xSwitchRequired =>
    match (k.items k.pxDelayedTaskList).head? with
    | none => some ({ k with xNextTaskUnblockTime := portMAX_DELAY }, xSwitchRequired)
    | some x =>
      let t := x.owner
      let xItemValue := k.value (.state t)
      if xConstTickCount < xItemValue then
        some ({ k with xNextTaskUnblockTime := xItemValue }, xSwitchRequired)
      else
        let k := ((k.remove (.state t)).remove (.event t)).prvAddTaskToReadyList t
        unblockDue xConstTickCount passes k
          (xSwitchRequired || k.uxPriority k.pxCurrentTCB ≤ k.uxPriority t)

/-- `xTaskIncrementTick`. -/
def xTaskIncrementTick : Option (Kernel × Bool) :=
  if k.uxSchedulerSuspended = 0 then
    let xConstTickCount := (k.xTickCount + 1) % 2 ^ 32
    let k := { k with xTickCount := xConstTickCount }
    let k := if xConstTickCount = 0 then k.switchDelayedLists else k
    let unblocked :=
      if k.xNextTaskUnblockTime ≤ xConstTickCount then
        unblockDue xConstTickCount ((k.items k.pxDelayedTaskList).length + 1) k false
      else some (k, false)
    unblocked.map fun (k, xSwitchRequired) =>
      (k, xSwitchRequired || 1 < (k.items (.ready (k.uxPriority k.pxCurrentTCB))).length ||
        k.xYieldPending)
  else some ({ k with xPendedTicks := (k.xPendedTicks + 1) % 2 ^ 32 }, false)

/-- The loop of `taskSELECT_HIGHEST_PRIORITY_TASK`; none if no task is ready. -/
def highestReady : Nat → Option Nat
  | 0 => if k.items (.ready 0) = [] then none else some 0
  | uxTopPriority + 1 =>
    if k.items (.ready (uxTopPriority + 1)) = [] then highestReady uxTopPriority
    else some (uxTopPriority + 1)

/-- `vTaskSwitchContext`. -/
def vTaskSwitchContext : Option Kernel :=
  if k.uxSchedulerSuspended ≠ 0 then some { k with xYieldPending := true }
  else
    (k.highestReady k.uxTopReadyPriority).map fun uxTopPriority =>
      let ready : Node := .list (.ready uxTopPriority)
      { k with
        xYieldPending := false
        pxCurrentTCB := ((k.lists.rounds ready).order.head?.getD ready).owner
        lists := (k.lists.call (.getNext ready)).2
        uxTopReadyPriority := uxTopPriority }

/-- `vPortTickISR`. -/
def vPortTickISR : Option Kernel :=
  match k.xTaskIncrementTick with
  | none => none
  | some (k, xSwitchRequired) => if xSwitchRequired then k.vTaskSwitchContext else some k

/-- `prvAddCurrentTaskToDelayedList`. -/
def prvAddCurrentTaskToDelayedList (xTicksToWait : Nat) (xCanBlockIndefinitely : Bool) : Kernel :=
  let item : Node := .state k.pxCurrentTCB
  let xConstTickCount := k.xTickCount
  let k := k.remove item
  if xTicksToWait = portMAX_DELAY ∧ xCanBlockIndefinitely then k.insertEnd .suspended item
  else
    let xTimeToWake := (xConstTickCount + xTicksToWait) % 2 ^ 32
    let k := k.setValue item xTimeToWake
    if xTimeToWake < xConstTickCount then k.insert k.pxOverflowDelayedTaskList item
    else
      let k := k.insert k.pxDelayedTaskList item
      if xTimeToWake < k.xNextTaskUnblockTime then { k with xNextTaskUnblockTime := xTimeToWake } else k

/-- `vTaskSuspendAll`. -/
def vTaskSuspendAll : Kernel := { k with uxSchedulerSuspended := (k.uxSchedulerSuspended + 1) % 2 ^ 32 }

/-- The first loop of `xTaskResumeAll`: what became ready in the meantime goes to the ready lists. -/
def readyPending : Nat → Kernel → Option Kernel
  | 0,          _ => none
  | passes + 1, k =>
    match (k.items .pendingReady).head? with
    | none => some k
    | some x =>
      let t := x.owner
      let k := ((k.remove (.event t)).remove (.state t)).prvAddTaskToReadyList t
      readyPending passes
        { k with xYieldPending := k.xYieldPending || k.uxPriority k.pxCurrentTCB ≤ k.uxPriority t }

/-- The second loop of `xTaskResumeAll`: the ticks that were pended. -/
def replayTicks : Nat → Kernel → Option Kernel
  | 0,                 k => some k
  | xPendedCounts + 1, k =>
    match k.xTaskIncrementTick with
    | none => none
    | some (k, xSwitchRequired) =>
      replayTicks xPendedCounts { k with xYieldPending := k.xYieldPending || xSwitchRequired }

/-- `xTaskResumeAll`: the kernel, and whether it has yielded. -/
def xTaskResumeAll : Option (Kernel × Bool) :=
  let k := { k with uxSchedulerSuspended := k.uxSchedulerSuspended - 1 }
  if k.uxSchedulerSuspended = 0 then
    match readyPending ((k.items .pendingReady).length + 1) k with
    | none => none
    | some k' =>
      let k' := if k.items .pendingReady = [] then k' else k'.prvResetNextTaskUnblockTime
      match replayTicks k'.xPendedTicks k' with
      | none => none
      | some k' =>
        let k' := { k' with xPendedTicks := 0 }
        if k'.xYieldPending then k'.vTaskSwitchContext.map (·, true) else some (k', false)
  else some (k, false)

/-- `vTaskPlaceOnEventList`. -/
def vTaskPlaceOnEventList (pxEventList : Nat) (xTicksToWait : Nat) : Kernel :=
  (k.insert (.event pxEventList) (.event k.pxCurrentTCB)).prvAddCurrentTaskToDelayedList xTicksToWait true

/-- `xTaskRemoveFromEventList`, on a list with a task. -/
def xTaskRemoveFromEventList (pxEventList : Nat) : Option (Kernel × Bool) :=
  (k.items (.event pxEventList)).head?.map fun x =>
    let t := x.owner
    let k := k.remove (.event t)
    let k :=
      if k.uxSchedulerSuspended = 0 then (k.remove (.state t)).prvAddTaskToReadyList t
      else k.insertEnd .pendingReady (.event t)
    if k.uxPriority k.pxCurrentTCB < k.uxPriority t then ({ k with xYieldPending := true }, true)
    else (k, false)

/-- `vTaskSuspend`, its first critical section; the second one is `prvResetNextTaskUnblockTime`. -/
def vTaskSuspend (t : Task) : Kernel :=
  ((k.remove (.state t)).remove (.event t)).insertEnd .suspended (.state t)

/-- `prvTaskIsTaskSuspended`. -/
def prvTaskIsTaskSuspended (t : Task) : Bool :=
  k.pxContainer (.state t) = some (.list .suspended) ∧ k.pxContainer (.event t) = none

/-- `vTaskResume`. -/
def vTaskResume (t : Task) : Option Kernel :=
  if t ≠ k.pxCurrentTCB ∧ k.prvTaskIsTaskSuspended t then
    let k := (k.remove (.state t)).prvAddTaskToReadyList t
    if k.uxPriority k.pxCurrentTCB ≤ k.uxPriority t then k.vTaskSwitchContext else some k
  else some k

/-- `xTaskResumeFromISR`. -/
def xTaskResumeFromISR (t : Task) : Kernel :=
  if k.prvTaskIsTaskSuspended t then
    if k.uxSchedulerSuspended = 0 then
      let k := { k with
        xYieldPending := k.xYieldPending || k.uxPriority k.pxCurrentTCB ≤ k.uxPriority t }
      (k.remove (.state t)).prvAddTaskToReadyList t
    else k.insertEnd .pendingReady (.event t)
  else k

/-- The priority that a new task gets. -/
def limitPriority (uxPriority : Nat) : Nat :=
  if configMAX_PRIORITIES ≤ uxPriority then configMAX_PRIORITIES - 1 else uxPriority

/-- `prvInitialiseNewTask`: the priority, and the place it gives the task among those that wait for an event. -/
def prvInitialiseNewTask (t : Task) (uxPriority : Nat) : Kernel :=
  { k with uxPriority := Function.update k.uxPriority t (limitPriority uxPriority) }.setValue (.event t)
    (configMAX_PRIORITIES - limitPriority uxPriority)

/-- `prvAddNewTaskToReadyList`, its critical section, while the scheduler is started. -/
def prvAddNewTaskToReadyList (t : Task) : Kernel := k.prvAddTaskToReadyList t

/-- The end of `prvAddNewTaskToReadyList`, behind the critical section: the task that has created the new one yields
    to a higher priority. -/
def yieldToNewTask (t : Task) : Option Kernel :=
  if k.uxPriority k.pxCurrentTCB < k.uxPriority t then k.vTaskSwitchContext else some k

/-- `xTaskCreate`, called by a task, up to the end of the critical section. -/
def xTaskCreate (t : Task) (uxPriority : Nat) : Kernel :=
  (k.prvInitialiseNewTask t uxPriority).prvAddNewTaskToReadyList t

/-- `xTaskCreate`, called before the scheduler is started: the last task of the highest priority is to run first. -/
def createBeforeStart (t : Task) (uxPriority : Nat) : Kernel :=
  let k := k.prvInitialiseNewTask t uxPriority
  let k := if k.uxPriority k.pxCurrentTCB ≤ k.uxPriority t then { k with pxCurrentTCB := t } else k
  k.prvAddTaskToReadyList t

/-- `prvInitialiseTaskLists`, and the variables of `tasks.c` when the first task is created. -/
def initial (first : Task) : Kernel where
  lists := ⟨fun _ => .empty, fun _ => 0⟩
  pxContainer _ := none
  uxPriority _ := 0
  pxDelayedTaskList := .delayed1
  pxOverflowDelayedTaskList := .delayed2
  pxCurrentTCB := first
  xTickCount := 0
  uxTopReadyPriority := 0
  xPendedTicks := 0
  xYieldPending := false
  xNumOfOverflows := 0
  xNextTaskUnblockTime := 0
  uxSchedulerSuspended := 0

/-- The tasks of `main`, and `vTaskStartScheduler`, which creates the idle task. -/
def vTaskStartScheduler (created : List (Task × Nat)) (idle : Task) : Kernel :=
  let tasks := created ++ [(idle, 0)]
  { tasks.foldl (fun k (t, uxPriority) => k.createBeforeStart t uxPriority)
      (initial ((tasks.head?.map Prod.fst).getD idle)) with
    xNextTaskUnblockTime := portMAX_DELAY }

end Kernel

end Freertos
end Obsw
