import Obsw.ActionHelper
import Obsw.Fram.Accessors

/-!
# `Core.Actions` — the action commands of the core controller

`CoreController::executeAction` with the functions of the controller it calls, `FRAMHandler`, and the
requests to `SystemStateTask`. A branch may send a completion of its own and return a code from which
the action helper makes another one, so what is counted is the completions of a command.
-/

namespace Obsw
namespace CoreActions

open Device Fram Memory

/-! ## The controller -/

def requestCpuStatsCsv : ActionId := 0
def requestCpuStatsPrint : ActionId := 1
def enableGlobalHammingCodeChecks : ActionId := 2
def disableGlobalHammingCodeChecks : ActionId := 3
def enableLocalHammingCodeChecks : ActionId := 4
def disableLocalHammingCodeChecks : ActionId := 5
def resetRebootCounterAction : ActionId := 6
def resetObc : ActionId := 10
def powercycleObc : ActionId := 11
def clearStorePage : ActionId := 12
def clearWholeStore : ActionId := 13
def getFillCount : ActionId := 14
def armDeploymentTimer : ActionId := 16
def dumpBootloaderBlock : ActionId := 28
def printFramBlBlock : ActionId := 29
def printFramCritBlock : ActionId := 30
def zeroOutFramDefaultZeroField : ActionId := 35

/-- The return values: those of the interfaces, a value of a FRAM function, or one of the framework. -/
inductive Code where
  | returnFailed
  | isBusy
  | invalidParameters
  | invalidActionId
  | fram (retval : Int)
  | framework (code : Nat)
  deriving DecidableEq, Repr

/-- `Stores`. -/
inductive Stores where
  | tmStore
  | tcStore
  | ipcStore
  deriving DecidableEq, Repr

/-- The enumerator of a byte that is cast to `Stores`, if there is one. -/
def storeOfByte (storeType : UInt8) : Option Stores :=
  match storeType.toNat with
  | 0 => some .tmStore
  | 1 => some .tcStore
  | 2 => some .ipcStore
  | _ => none

/-- The slot of a byte that is cast to `SlotType`, up to the 4 the controller lets pass. -/
def slotOfByte (slot : UInt8) : SlotType :=
  match slot.toNat with
  | 0 => .flashSlot
  | 1 => .sdc0Sl0
  | 2 => .sdc0Sl1
  | 3 => .sdc1Sl0
  | _ => .sdc1Sl1

/-- A store as the controller uses it: how full each of its pools is. -/
structure Store where
  subPools : List UInt8
  deriving DecidableEq, Repr

def Store.clearSubPool (store : Store) (poolIndex : Nat) : Store := ⟨store.subPools.set poolIndex 0⟩

def Store.clearStore (store : Store) : Store := ⟨store.subPools.map fun _ => 0⟩

/-- `InternalState` of the system state task. -/
inductive InternalState where
  | idle
  | generatingStatsCsv
  | generatingStatsPrint
  deriving DecidableEq, Repr

/-- What actions read and change: the state of the system state task, the FRAM with the buffer of the FRAM
    handler, and the stores that are registered. -/
structure Controller where
  internalState : InternalState
  fram : Mem UInt8
  criticalBlock : Mem UInt8
  stores : Stores → Option Store

/-- What an action meets: how a block of the FRAM is read and a field is written, the reads and writes of
    `fram_zero_out_default_zero_fields` with its stack, what `getFillCount` puts out, what `reportData`
    returns, the byte behind the data of the command, and whether the call that resets the computer
    returns. -/
structure ActionOutcome where
  read : WriteOutcome UInt8
  write : WriteOutcome UInt8
  reads : Nat → WriteOutcome UInt8
  writes : Nat → WriteOutcome UInt8
  stack : Mem UInt8
  fillCount : List UInt8
  reportData : Option Code
  behind : UInt8
  resetReturns : Bool

/-- What `executeAction` returns, the reports and the data it sends, and the controller behind it. -/
structure Executed where
  result : ExecutionResult Code
  reports : List (ActionReport Code)
  dataReports : List (List UInt8)
  controller : Controller

/-- `actionHelper.finish` for the command. -/
def finish (c : ActionCommand) (success : Bool) (result : Option Code) : ActionReport Code :=
  .finish success c.commandedBy (.action c.actionId) result

/-! ## `FRAMHandler` -/

/-- `FRAMHandler::readBootloaderBlock`, with the buffer behind it. Both exits return `RETURN_FAILED`. -/
def readBootloaderBlock (o : ActionOutcome) (s : Controller) : Option Code × Mem UInt8 :=
  let read := framReadBootloaderBlockRaw o.read s.fram s.criticalBlock blGroup.size
  if read.retval ≠ 0 then (some .returnFailed, read.out) else (some .returnFailed, read.out)

/-- `FRAMHandler::printBootloaderBlock`. A read that fails prints nothing. -/
def printBootloaderBlock (o : ActionOutcome) (s : Controller) : Controller :=
  { s with
    criticalBlock := (framReadBootloaderBlockRaw o.read s.fram s.criticalBlock blGroup.size).out }

/-- `FRAMHandler::printCriticalBlock`. A read that fails prints nothing. -/
def printCriticalBlock (o : ActionOutcome) (s : Controller) : Controller :=
  { s with
    criticalBlock :=
      (framReadCriticalBlock o.read s.fram s.criticalBlock criticalDataBlockSize).out }

/-- `FRAMHandler::zeroOutDefaultZeroFields`, with the error it puts out and the FRAM behind it. -/
def zeroOutDefaultZeroFields (o : ActionOutcome) (s : Controller) :
    Option Code × Int × Mem UInt8 :=
  let zeroed := framZeroOutDefaultZeroFields o.reads o.writes s.fram o.stack
  if zeroed.1 ≠ 0 then (some .returnFailed, zeroed.1, zeroed.2) else (none, 0, zeroed.2)

/-! ## The branches -/

/-- `generateStatsCsv` and `generateStatsPrint`: refused unless the task is idle. -/
def generateStats (csvOrPrint : InternalState) (s : Controller) : Option Controller :=
  if s.internalState ≠ .idle then none else some { s with internalState := csvOrPrint }

/-- The branches of `REQUEST_CPU_STATS_CSV` and `REQUEST_CPU_STATS_PRINT`. -/
def requestStats (csvOrPrint : InternalState) (c : ActionCommand) (s : Controller) : Executed :=
  match generateStats csvOrPrint s with
  | none => ⟨.failed .isBusy, [], [], s⟩
  | some s' => ⟨.ok, [finish c true none], [], s'⟩

/-- `handleClearStoreCommand`. -/
def handleClearStoreCommand (storeType : UInt8) (pageOrWholeStore : ActionId) (poolIndex : UInt8)
    (s : Controller) : Executed :=
  match storeOfByte storeType with
  | none => ⟨.failed .returnFailed, [], [], s⟩
  | some store =>
    match s.stores store with
    | none => ⟨.failed .returnFailed, [], [], s⟩
    | some contents =>
      if pageOrWholeStore = clearStorePage then
        if poolIndex.toNat ≥ contents.subPools.length then ⟨.failed .invalidParameters, [], [], s⟩
        else
          ⟨.executionFinished, [], [], { s with
            stores := fun i => if i = store then some (contents.clearSubPool poolIndex.toNat)
              else s.stores i }⟩
      else if pageOrWholeStore = clearWholeStore then
        ⟨.executionFinished, [], [], { s with
          stores := fun i => if i = store then some contents.clearStore else s.stores i }⟩
      else ⟨.executionFinished, [], [], s⟩

/-- The branch of `CLEAR_STORE_PAGE`. With one byte of data the page index is read behind it. -/
def executeClearStorePage (c : ActionCommand) (o : ActionOutcome) (s : Controller) : Executed :=
  match c.data with
  | [storeType] => handleClearStoreCommand storeType c.actionId o.behind s
  | [storeType, pageIndex] => handleClearStoreCommand storeType c.actionId pageIndex s
  | _ => ⟨.failed .invalidParameters, [], [], s⟩

/-- The branch of `CLEAR_WHOLE_STORE`. -/
def executeClearWholeStore (c : ActionCommand) (s : Controller) : Executed :=
  match c.data with
  | [storeType] => handleClearStoreCommand storeType c.actionId 0 s
  | [storeType, _] => handleClearStoreCommand storeType c.actionId 0 s
  | _ => ⟨.failed .invalidParameters, [], [], s⟩

/-- `getFillCountCommand`. The store is used without a look at whether there is one. -/
def getFillCountCommand (storeType : UInt8) (o : ActionOutcome) (s : Controller) : Option Executed :=
  match storeOfByte storeType with
  | none => some ⟨.failed .returnFailed, [], [], s⟩
  | some store =>
    match s.stores store with
    | none => none
    | some _ =>
      -- the type is in front, and the number of bytes does not count it
      let buffer := storeType :: o.fillCount
      match o.reportData with
      | some result => some ⟨.failed result, [], [], s⟩
      | none => some ⟨.executionFinished, [], [buffer.take o.fillCount.length], s⟩

/-- The branch of `GET_FILL_COUNT`. -/
def executeGetFillCount (c : ActionCommand) (o : ActionOutcome) (s : Controller) : Option Executed :=
  match c.data with
  | [storeType] => getFillCountCommand storeType o s
  | _ => some ⟨.failed .invalidParameters, [], [], s⟩

/-- The flag function `manipulateGlobalHammingFlag` calls. -/
def globalHammingFlag (set : Bool) (o : ActionOutcome) (s : Controller) : Int × Mem UInt8 :=
  if set then framSetHamCheckFlag o.write s.fram else framClearHamCheckFlag o.write s.fram

/-- `manipulateGlobalHammingFlag`. -/
def manipulateGlobalHammingFlag (set : Bool) (c : ActionCommand) (o : ActionOutcome)
    (s : Controller) : Executed :=
  let flag := globalHammingFlag set o s
  if flag.1 ≠ 0 then
    ⟨.failed .returnFailed, [finish c false (some (.fram flag.1))], [], { s with fram := flag.2 }⟩
  else ⟨.executionFinished, [finish c true none], [], { s with fram := flag.2 }⟩

/-- The slot in the data of a command: the first byte, if it is at most 4. -/
def slotOfData : List UInt8 → Option SlotType
  | [] => none
  | slot :: _ => if slot > 4 then none else some (slotOfByte slot)

/-- The flag function `manipulateLocalHammingFlag` calls. -/
def localHammingFlag (set : Bool) (slotType : SlotType) (o : ActionOutcome) (s : Controller) :
    Int × Mem UInt8 :=
  if set then framSetImgHamFlag o.write s.fram slotType
  else framClearImgHamFlag o.write s.fram slotType

/-- `manipulateLocalHammingFlag`. Unlike the other two it sends no completion when it succeeds. -/
def manipulateLocalHammingFlag (set : Bool) (c : ActionCommand) (o : ActionOutcome)
    (s : Controller) : Executed :=
  match slotOfData c.data with
  | none => ⟨.failed .invalidParameters, [finish c false (some .invalidParameters)], [], s⟩
  | some slotType =>
    let flag := localHammingFlag set slotType o s
    if flag.1 ≠ 0 then
      ⟨.failed .returnFailed, [finish c false (some .returnFailed)], [], { s with fram := flag.2 }⟩
    else ⟨.executionFinished, [], [], { s with fram := flag.2 }⟩

/-- `resetRebootCounter`. -/
def resetRebootCounter (c : ActionCommand) (o : ActionOutcome) (s : Controller) : Executed :=
  match slotOfData c.data with
  | none => ⟨.failed .invalidParameters, [finish c false (some .invalidParameters)], [], s⟩
  | some slotType =>
    let reset := framResetImgRebootCounter o.write s.fram slotType
    if reset.1 ≠ 0 then
      ⟨.failed .returnFailed, [finish c false (some .returnFailed)], [], { s with fram := reset.2 }⟩
    else ⟨.executionFinished, [finish c true none], [], { s with fram := reset.2 }⟩

/-- The branch of `ARM_DEPLOYMENT_TIMER`. -/
def executeArm (o : ActionOutcome) (s : Controller) : Executed :=
  let armed := framArmDeploymentTimer o.write s.fram true
  if armed.1 = 0 then ⟨.executionFinished, [], [], { s with fram := armed.2 }⟩
  else ⟨.failed .returnFailed, [], [], { s with fram := armed.2 }⟩

/-- The branch of `DUMP_BOOTLOADER_BLOCK`. -/
def executeDump (c : ActionCommand) (o : ActionOutcome) (s : Controller) : Executed :=
  let block := readBootloaderBlock o s
  match block.1 with
  | some result =>
    ⟨.failed result, [finish c false (some result)], [], { s with criticalBlock := block.2 }⟩
  | none =>
    ⟨.executionFinished, [], [load block.2 0 blGroup.size], { s with criticalBlock := block.2 }⟩

/-- The branch of `ZERO_OUT_FRAM_DEFAULT_ZERO_FIELD`. -/
def executeZeroOut (c : ActionCommand) (o : ActionOutcome) (s : Controller) : Executed :=
  match zeroOutDefaultZeroFields o s with
  | (some result, errorVal, fram) =>
    ⟨.failed result, [finish c false (some (.fram errorVal))], [], { s with fram := fram }⟩
  | (none, _, fram) => ⟨.executionFinished, [], [], { s with fram := fram }⟩

/-- The branches of `RESET_OBC` and `POWERCYCLE_OBC`. `restart`, on the evaluation board, does not
    return. -/
def executeReset (o : ActionOutcome) (s : Controller) : Option Executed :=
  if o.resetReturns then some ⟨.ok, [], [], s⟩ else none

/-- `executeAction`. `none`: it does not return. -/
def executeAction (c : ActionCommand) (o : ActionOutcome) (s : Controller) : Option Executed :=
  if c.actionId = requestCpuStatsCsv then some (requestStats .generatingStatsCsv c s)
  else if c.actionId = requestCpuStatsPrint then some (requestStats .generatingStatsPrint c s)
  else if c.actionId = resetObc then executeReset o s
  else if c.actionId = powercycleObc then executeReset o s
  else if c.actionId = clearStorePage then some (executeClearStorePage c o s)
  else if c.actionId = clearWholeStore then some (executeClearWholeStore c s)
  else if c.actionId = getFillCount then executeGetFillCount c o s
  else if c.actionId = resetRebootCounterAction then some (resetRebootCounter c o s)
  else if c.actionId = enableGlobalHammingCodeChecks then
    some (manipulateGlobalHammingFlag true c o s)
  else if c.actionId = disableGlobalHammingCodeChecks then
    some (manipulateGlobalHammingFlag false c o s)
  else if c.actionId = enableLocalHammingCodeChecks then some (manipulateLocalHammingFlag true c o s)
  else if c.actionId = disableLocalHammingCodeChecks then
    some (manipulateLocalHammingFlag false c o s)
  else if c.actionId = armDeploymentTimer then some (executeArm o s)
  else if c.actionId = dumpBootloaderBlock then some (executeDump c o s)
  else if c.actionId = printFramBlBlock then
    some ⟨.executionFinished, [], [], printBootloaderBlock o s⟩
  else if c.actionId = printFramCritBlock then
    some ⟨.executionFinished, [], [], printCriticalBlock o s⟩
  else if c.actionId = zeroOutFramDefaultZeroField then some (executeZeroOut c o s)
  else some ⟨.failed .invalidActionId, [], [], s⟩

/-- The reports of a command: those of `executeAction`, and what the action helper makes of its result. -/
def Executed.allReports (c : ActionCommand) (x : Executed) : List (ActionReport Code) :=
  x.reports ++ [reportExecution c x.result]

/-! ## What a command is told -/

/-- The FRAM or hardware operation of a command succeeds. The other actions have none, and an answer to a
    reset means that there was none. -/
def Succeeds (c : ActionCommand) (o : ActionOutcome) (s : Controller) : Prop :=
  if c.actionId = enableGlobalHammingCodeChecks then (globalHammingFlag true o s).1 = 0
  else if c.actionId = disableGlobalHammingCodeChecks then (globalHammingFlag false o s).1 = 0
  else if c.actionId = enableLocalHammingCodeChecks then
    ∃ slotType ∈ slotOfData c.data, (localHammingFlag true slotType o s).1 = 0
  else if c.actionId = disableLocalHammingCodeChecks then
    ∃ slotType ∈ slotOfData c.data, (localHammingFlag false slotType o s).1 = 0
  else if c.actionId = resetRebootCounterAction then
    ∃ slotType ∈ slotOfData c.data, (framResetImgRebootCounter o.write s.fram slotType).1 = 0
  else if c.actionId = armDeploymentTimer then (framArmDeploymentTimer o.write s.fram true).1 = 0
  else if c.actionId = dumpBootloaderBlock ∨ c.actionId = printFramBlBlock then
    (framReadBootloaderBlockRaw o.read s.fram s.criticalBlock blGroup.size).retval = 0
  else if c.actionId = printFramCritBlock then
    (framReadCriticalBlock o.read s.fram s.criticalBlock criticalDataBlockSize).retval = 0
  else if c.actionId = zeroOutFramDefaultZeroField then
    (framZeroOutDefaultZeroFields o.reads o.writes s.fram o.stack).1 = 0
  else c.actionId ≠ resetObc ∧ c.actionId ≠ powercycleObc

/-- A command has exactly one completion, which answers it, and it is told a success only if its operation
    succeeds. -/
def Completed (c : ActionCommand) (o : ActionOutcome) (s : Controller) : Prop :=
  ∃ x success, executeAction c o s = some x ∧
    completionReports (x.allReports c) = [c.answer success] ∧ (success = true → Succeeds c o s)

/-- The condition under which a command is completed once. -/
def CompletesOnce (c : ActionCommand) (o : ActionOutcome) (s : Controller) : Prop :=
  if c.actionId = enableLocalHammingCodeChecks ∨ c.actionId = disableLocalHammingCodeChecks then
    (slotOfData c.data).isSome = true ∧ o.write.retval = 0
  else if c.actionId = printFramBlBlock ∨ c.actionId = printFramCritBlock then o.read.retval = 0
  else if c.actionId = zeroOutFramDefaultZeroField then
    (framZeroOutDefaultZeroFields o.reads o.writes s.fram o.stack).1 = 0
  else if c.actionId = getFillCount then
    ∀ storeType, c.data = [storeType] →
      ∀ store ∈ storeOfByte storeType, (s.stores store).isSome = true
  else
    ¬ (c.actionId = enableGlobalHammingCodeChecks ∨ c.actionId = disableGlobalHammingCodeChecks ∨
      c.actionId = resetRebootCounterAction ∨ c.actionId = dumpBootloaderBlock ∨
      c.actionId = resetObc ∨ c.actionId = powercycleObc)

section Counting

variable {c : ActionCommand} {o : ActionOutcome} {s : Controller}

/-- The answers a command gets decide whether it is completed. -/
theorem completed_iff_of_answers {x : Executed} (successes : List Bool)
    (hrun : executeAction c o s = some x)
    (hanswers : completionReports (x.allReports c) = successes.map c.answer) :
    Completed c o s ↔ ∃ success, successes = [success] ∧ (success = true → Succeeds c o s) := by
  constructor
  · rintro ⟨x', success, hrun', hone, htruth⟩
    obtain rfl : x = x' := Option.some.inj (hrun.symm.trans hrun')
    rw [hanswers] at hone
    obtain ⟨success', rest, rfl, hhead, hrest⟩ := List.map_eq_cons_iff.mp hone
    obtain rfl := List.map_eq_nil_iff.mp hrest
    obtain rfl : success' = success := congrArg CompletionReport.success hhead
    exact ⟨success', rfl, htruth⟩
  · rintro ⟨success, rfl, htruth⟩
    exact ⟨x, success, hrun, hanswers, htruth⟩

variable {s' : Controller} {code : Code} {result : Option Code} {dataReports : List (List UInt8)}

theorem completed_of_failed
    (hrun : executeAction c o s = some ⟨.failed code, [], dataReports, s'⟩) : Completed c o s := by
  rw [completed_iff_of_answers [false] hrun rfl]
  exact ⟨false, rfl, fun hfalse => absurd hfalse Bool.false_ne_true⟩

theorem completed_iff_of_finished
    (hrun : executeAction c o s = some ⟨.executionFinished, [], dataReports, s'⟩) :
    Completed c o s ↔ Succeeds c o s := by
  rw [completed_iff_of_answers [true] hrun rfl]
  simp

/-- A completion and a result that is one as well are two. -/
theorem not_completed_of_both {success : Bool} {execution : ExecutionResult Code}
    (hexecution : execution ≠ .ok)
    (hrun : executeAction c o s = some ⟨execution, [finish c success result], dataReports, s'⟩) :
    ¬ Completed c o s := by
  cases execution with
  | ok => exact absurd rfl hexecution
  | executionFinished =>
      rw [completed_iff_of_answers [success, true] hrun rfl]
      simp
  | failed code =>
      rw [completed_iff_of_answers [success, false] hrun rfl]
      simp

theorem not_completed_of_none (hrun : executeAction c o s = none) : ¬ Completed c o s := by
  rintro ⟨x, success, hsome, _⟩
  rw [hrun] at hsome
  cases hsome

end Counting

/-! ## The actions -/

section Commands

variable {c : ActionCommand} {o : ActionOutcome} {s : Controller}

/-- A refusal, or a start with a completion behind it. -/
theorem requestStats_completed (csvOrPrint : InternalState)
    (hrun : executeAction c o s = some (requestStats csvOrPrint c s)) (hsucceeds : Succeeds c o s) :
    Completed c o s := by
  unfold requestStats at hrun
  cases hstats : generateStats csvOrPrint s with
  | none =>
      rw [hstats] at hrun
      exact completed_of_failed hrun
  | some s' =>
      rw [hstats] at hrun
      rw [completed_iff_of_answers [true] hrun rfl]
      exact ⟨true, rfl, fun _ => hsucceeds⟩

/-- Clearing sends no completion of its own. -/
theorem handleClearStoreCommand_completed {storeType poolIndex : UInt8}
    (hrun : executeAction c o s = some (handleClearStoreCommand storeType c.actionId poolIndex s))
    (hsucceeds : Succeeds c o s) : Completed c o s := by
  unfold handleClearStoreCommand at hrun
  cases hstore : storeOfByte storeType with
  | none =>
      simp only [hstore] at hrun
      exact completed_of_failed hrun
  | some store =>
      simp only [hstore] at hrun
      cases hcontents : s.stores store with
      | none =>
          simp only [hcontents] at hrun
          exact completed_of_failed hrun
      | some contents =>
          simp only [hcontents] at hrun
          split at hrun
          · split at hrun
            · exact completed_of_failed hrun
            · exact (completed_iff_of_finished hrun).mpr hsucceeds
          · split at hrun
            · exact (completed_iff_of_finished hrun).mpr hsucceeds
            · exact (completed_iff_of_finished hrun).mpr hsucceeds

theorem clearStorePage_completed (hid : c.actionId = clearStorePage) : Completed c o s := by
  have hsucceeds : Succeeds c o s := by
    rw [Succeeds, hid]
    exact ⟨by decide, by decide⟩
  have hrun : executeAction c o s = some (executeClearStorePage c o s) := by
    rw [executeAction, hid]
    rfl
  unfold executeClearStorePage at hrun
  split at hrun
  · exact handleClearStoreCommand_completed hrun hsucceeds
  · exact handleClearStoreCommand_completed hrun hsucceeds
  · exact completed_of_failed hrun

theorem clearWholeStore_completed (hid : c.actionId = clearWholeStore) : Completed c o s := by
  have hsucceeds : Succeeds c o s := by
    rw [Succeeds, hid]
    exact ⟨by decide, by decide⟩
  have hrun : executeAction c o s = some (executeClearWholeStore c s) := by
    rw [executeAction, hid]
    rfl
  unfold executeClearWholeStore at hrun
  split at hrun
  · exact handleClearStoreCommand_completed hrun hsucceeds
  · exact handleClearStoreCommand_completed hrun hsucceeds
  · exact completed_of_failed hrun

/-- A store that is not registered is used all the same, and the call does not return. -/
theorem getFillCount_completed_iff (hid : c.actionId = getFillCount) :
    Completed c o s ↔ CompletesOnce c o s := by
  have honce : CompletesOnce c o s ↔ ∀ storeType, c.data = [storeType] →
      ∀ store ∈ storeOfByte storeType, (s.stores store).isSome = true := by
    rw [CompletesOnce, hid]
    exact Iff.rfl
  have hsucceeds : Succeeds c o s := by
    rw [Succeeds, hid]
    exact ⟨by decide, by decide⟩
  have hrun : executeAction c o s = executeGetFillCount c o s := by
    rw [executeAction, hid]
    rfl
  rw [honce]
  unfold executeGetFillCount at hrun
  split at hrun
  · rename_i storeType hdata
    unfold getFillCountCommand at hrun
    cases hstore : storeOfByte storeType with
    | none =>
        simp only [hstore] at hrun
        apply iff_of_true (completed_of_failed hrun)
        rintro other hother store hmem
        obtain rfl : storeType = other := by simpa [hdata] using hother
        rw [hstore] at hmem
        exact absurd hmem (Option.not_mem_none store)
    | some store =>
        simp only [hstore] at hrun
        cases hcontents : s.stores store with
        | none =>
            simp only [hcontents] at hrun
            refine iff_of_false (not_completed_of_none hrun) (fun hregistered => ?_)
            have hsome := hregistered storeType hdata store hstore
            rw [hcontents] at hsome
            exact absurd hsome (by decide)
        | some contents =>
            simp only [hcontents] at hrun
            refine iff_of_true ?_ ?_
            · split at hrun
              · exact completed_of_failed hrun
              · exact (completed_iff_of_finished hrun).mpr hsucceeds
            · rintro other hother store' hmem
              obtain rfl : storeType = other := by simpa [hdata] using hother
              obtain rfl : store = store' := Option.some.inj (hstore.symm.trans hmem)
              rw [hcontents]
              rfl
  · rename_i hdata
    exact iff_of_true (completed_of_failed hrun) (fun storeType hone => absurd hone (hdata storeType))

/-- A change of the global flag is always completed twice. -/
theorem globalHammingFlag_not_completed (set : Bool)
    (hrun : executeAction c o s = some (manipulateGlobalHammingFlag set c o s)) :
    ¬ Completed c o s := by
  unfold manipulateGlobalHammingFlag at hrun
  dsimp only at hrun
  split at hrun
  · exact not_completed_of_both (by simp) hrun
  · exact not_completed_of_both (by simp) hrun

theorem resetRebootCounter_not_completed (hid : c.actionId = resetRebootCounterAction) :
    ¬ Completed c o s := by
  have hrun : executeAction c o s = some (resetRebootCounter c o s) := by
    rw [executeAction, hid]
    rfl
  unfold resetRebootCounter at hrun
  split at hrun
  · exact not_completed_of_both (by simp) hrun
  · dsimp only at hrun
    split at hrun
    · exact not_completed_of_both (by simp) hrun
    · exact not_completed_of_both (by simp) hrun

/-- Every slot the controller lets pass has a hamming flag, so the flag is as good as its write. -/
theorem localHammingFlag_retval {data : List UInt8} {slotType : SlotType} (o : ActionOutcome)
    (s : Controller) (set : Bool)
    (hslot : slotOfData data = some slotType) :
    (localHammingFlag set slotType o s).1 = o.write.retval := by
  have haddress : determineHamFlagAddress slotType ≠ 0 := by
    cases data with
    | nil => cases hslot
    | cons slot rest =>
        rw [slotOfData] at hslot
        split at hslot
        · cases hslot
        · obtain rfl := Option.some.inj hslot
          unfold slotOfByte
          split <;> decide
  cases set with
  | true =>
      rw [localHammingFlag, if_pos rfl, framSetImgHamFlag, writeImgHamFlag, if_neg haddress]
      rfl
  | false =>
      rw [localHammingFlag, if_neg Bool.false_ne_true, framClearImgHamFlag, writeImgHamFlag,
        if_neg haddress]
      rfl

/-- A failure is completed twice, and a success once. -/
theorem localHammingFlag_completed_iff (set : Bool)
    (hrun : executeAction c o s = some (manipulateLocalHammingFlag set c o s))
    (hsucceeds : Succeeds c o s ↔
      ∃ slotType ∈ slotOfData c.data, (localHammingFlag set slotType o s).1 = 0) :
    Completed c o s ↔ (slotOfData c.data).isSome = true ∧ o.write.retval = 0 := by
  unfold manipulateLocalHammingFlag at hrun
  cases hslot : slotOfData c.data with
  | none =>
      simp only [hslot] at hrun
      apply iff_of_false (not_completed_of_both (by simp) hrun)
      rintro ⟨hsome, _⟩
      exact absurd hsome (by decide)
  | some slotType =>
      have hretval := localHammingFlag_retval o s set hslot
      simp only [hslot] at hrun
      by_cases hzero : o.write.retval = 0
      · rw [if_neg (not_not.mpr (hretval.trans hzero))] at hrun
        refine iff_of_true ((completed_iff_of_finished hrun).mpr (hsucceeds.mpr ?_)) ⟨rfl, hzero⟩
        exact ⟨slotType, hslot, hretval.trans hzero⟩
      · rw [if_pos (fun hflag => hzero (hretval.symm.trans hflag))] at hrun
        exact iff_of_false (not_completed_of_both (by simp) hrun) (fun hgood => hzero hgood.2)

theorem armDeploymentTimer_completed (hid : c.actionId = armDeploymentTimer) : Completed c o s := by
  have hsucceeds : Succeeds c o s ↔ (framArmDeploymentTimer o.write s.fram true).1 = 0 := by
    rw [Succeeds, hid]
    exact Iff.rfl
  have hrun : executeAction c o s = some (executeArm o s) := by
    rw [executeAction, hid]
    rfl
  unfold executeArm at hrun
  by_cases hzero : (framArmDeploymentTimer o.write s.fram true).1 = 0
  · rw [if_pos hzero] at hrun
    exact (completed_iff_of_finished hrun).mpr (hsucceeds.mpr hzero)
  · rw [if_neg hzero] at hrun
    exact completed_of_failed hrun

/-- `readBootloaderBlock` succeeds on no path, so a dump is completed twice. -/
theorem dumpBootloaderBlock_not_completed (hid : c.actionId = dumpBootloaderBlock) :
    ¬ Completed c o s := by
  have hblock : (readBootloaderBlock o s).1 = some .returnFailed := by
    unfold readBootloaderBlock
    dsimp only
    split <;> rfl
  have hrun : executeAction c o s = some (executeDump c o s) := by
    rw [executeAction, hid]
    rfl
  unfold executeDump at hrun
  simp only [hblock] at hrun
  exact not_completed_of_both (by simp) hrun

theorem printFramBlBlock_completed_iff (hid : c.actionId = printFramBlBlock) :
    Completed c o s ↔ o.read.retval = 0 := by
  have hrun : executeAction c o s =
      some ⟨.executionFinished, [], [], printBootloaderBlock o s⟩ := by
    rw [executeAction, hid]
    rfl
  rw [completed_iff_of_finished hrun, Succeeds, hid]
  exact Iff.rfl

theorem printFramCritBlock_completed_iff (hid : c.actionId = printFramCritBlock) :
    Completed c o s ↔ o.read.retval = 0 := by
  have hrun : executeAction c o s =
      some ⟨.executionFinished, [], [], printCriticalBlock o s⟩ := by
    rw [executeAction, hid]
    rfl
  rw [completed_iff_of_finished hrun, Succeeds, hid]
  exact Iff.rfl

/-- An error is completed twice. -/
theorem zeroOut_completed_iff (hid : c.actionId = zeroOutFramDefaultZeroField) :
    Completed c o s ↔ (framZeroOutDefaultZeroFields o.reads o.writes s.fram o.stack).1 = 0 := by
  have hsucceeds : Succeeds c o s ↔
      (framZeroOutDefaultZeroFields o.reads o.writes s.fram o.stack).1 = 0 := by
    rw [Succeeds, hid]
    exact Iff.rfl
  have hrun : executeAction c o s = some (executeZeroOut c o s) := by
    rw [executeAction, hid]
    rfl
  unfold executeZeroOut zeroOutDefaultZeroFields at hrun
  by_cases hzero : (framZeroOutDefaultZeroFields o.reads o.writes s.fram o.stack).1 = 0
  · rw [if_neg (not_not.mpr hzero)] at hrun
    exact iff_of_true ((completed_iff_of_finished hrun).mpr (hsucceeds.mpr hzero)) hzero
  · rw [if_pos hzero] at hrun
    exact iff_of_false (not_completed_of_both (by simp) hrun) hzero

/-- A reset is started and never completed. -/
theorem reset_not_completed (hrun : executeAction c o s = executeReset o s) :
    ¬ Completed c o s := by
  unfold executeReset at hrun
  split at hrun
  · rw [completed_iff_of_answers [] hrun rfl]
    simp
  · exact not_completed_of_none hrun

/-- The actions that are not completed once, whatever they meet. -/
theorem never_completed (hid : c.actionId = enableGlobalHammingCodeChecks ∨
    c.actionId = disableGlobalHammingCodeChecks ∨ c.actionId = resetRebootCounterAction ∨
    c.actionId = dumpBootloaderBlock ∨ c.actionId = resetObc ∨ c.actionId = powercycleObc) :
    ¬ Completed c o s := by
  rcases hid with hid | hid | hid | hid | hid | hid
  · apply globalHammingFlag_not_completed true
    rw [executeAction, hid]
    rfl
  · apply globalHammingFlag_not_completed false
    rw [executeAction, hid]
    rfl
  · exact resetRebootCounter_not_completed hid
  · exact dumpBootloaderBlock_not_completed hid
  · apply reset_not_completed
    rw [executeAction, hid]
    rfl
  · apply reset_not_completed
    rw [executeAction, hid]
    rfl

end Commands

/-- **Completion of the commands to the core controller.** A command is completed once, and with a success
    only if its operation succeeds, exactly under the condition. -/
theorem executeAction_completedOnce_iff (c : ActionCommand) (o : ActionOutcome) (s : Controller) :
    Completed c o s ↔ CompletesOnce c o s := by
  by_cases hlocal : c.actionId = enableLocalHammingCodeChecks ∨
      c.actionId = disableLocalHammingCodeChecks
  · rw [CompletesOnce, if_pos hlocal]
    rcases hlocal with hid | hid
    · refine localHammingFlag_completed_iff true ?_ ?_
      · rw [executeAction, hid]
        rfl
      · rw [Succeeds, hid]
        exact Iff.rfl
    · refine localHammingFlag_completed_iff false ?_ ?_
      · rw [executeAction, hid]
        rfl
      · rw [Succeeds, hid]
        exact Iff.rfl
  by_cases hprint : c.actionId = printFramBlBlock ∨ c.actionId = printFramCritBlock
  · rw [CompletesOnce, if_neg hlocal, if_pos hprint]
    rcases hprint with hid | hid
    · exact printFramBlBlock_completed_iff hid
    · exact printFramCritBlock_completed_iff hid
  by_cases hzero : c.actionId = zeroOutFramDefaultZeroField
  · rw [CompletesOnce, if_neg hlocal, if_neg hprint, if_pos hzero]
    exact zeroOut_completed_iff hzero
  by_cases hfill : c.actionId = getFillCount
  · exact getFillCount_completed_iff hfill
  rw [CompletesOnce, if_neg hlocal, if_neg hprint, if_neg hzero, if_neg hfill]
  by_cases hnever : c.actionId = enableGlobalHammingCodeChecks ∨
      c.actionId = disableGlobalHammingCodeChecks ∨ c.actionId = resetRebootCounterAction ∨
      c.actionId = dumpBootloaderBlock ∨ c.actionId = resetObc ∨ c.actionId = powercycleObc
  · exact iff_of_false (never_completed hnever) (not_not.mpr hnever)
  refine iff_of_true ?_ hnever
  by_cases hcsv : c.actionId = requestCpuStatsCsv
  · exact requestStats_completed .generatingStatsCsv (by rw [executeAction, if_pos hcsv])
      (by rw [Succeeds, hcsv]; exact ⟨by decide, by decide⟩)
  by_cases hstats : c.actionId = requestCpuStatsPrint
  · exact requestStats_completed .generatingStatsPrint
      (by rw [executeAction, if_neg hcsv, if_pos hstats])
      (by rw [Succeeds, hstats]; exact ⟨by decide, by decide⟩)
  by_cases hpage : c.actionId = clearStorePage
  · exact clearStorePage_completed hpage
  by_cases hwhole : c.actionId = clearWholeStore
  · exact clearWholeStore_completed hwhole
  by_cases harm : c.actionId = armDeploymentTimer
  · exact armDeploymentTimer_completed harm
  -- no action of the controller
  simp only [not_or] at hlocal hprint hnever
  obtain ⟨hset, hclear, hreset, hdump, hobc, hpower⟩ := hnever
  have hrun : executeAction c o s = some ⟨.failed .invalidActionId, [], [], s⟩ := by
    rw [executeAction, if_neg hcsv, if_neg hstats, if_neg hobc, if_neg hpower, if_neg hpage,
      if_neg hwhole, if_neg hfill, if_neg hreset, if_neg hset, if_neg hclear, if_neg hlocal.1,
      if_neg hlocal.2, if_neg harm, if_neg hdump, if_neg hprint.1, if_neg hprint.2, if_neg hzero]
  exact completed_of_failed hrun

/-- A FRAM that takes every write, read into a buffer without an error. -/
def ActionOutcome.allDone : ActionOutcome where
  read := .done
  write := .done
  reads := fun _ => .done
  writes := fun _ => .done
  stack := fun _ => 0
  fillCount := []
  reportData := none
  behind := 0
  resetReturns := true

/-- The controller at startup, without stores. -/
def Controller.initial (fram : Mem UInt8) : Controller := ⟨.idle, fram, fun _ => 0, fun _ => none⟩

/-- **A change of the global hamming flag that succeeds is completed twice.** -/
theorem globalHammingFlag_completed_twice :
    (executeAction ⟨enableGlobalHammingCodeChecks, 1, []⟩ .allDone (.initial fun _ => 0)).map
        (fun x => completionReports (x.allReports ⟨enableGlobalHammingCodeChecks, 1, []⟩)) =
      some [⟨true, 1, .action enableGlobalHammingCodeChecks⟩,
        ⟨true, 1, .action enableGlobalHammingCodeChecks⟩] ∧
    ¬ Completed ⟨enableGlobalHammingCodeChecks, 1, []⟩ .allDone (.initial fun _ => 0) :=
  ⟨rfl, never_completed (.inl rfl)⟩

end CoreActions
end Obsw
