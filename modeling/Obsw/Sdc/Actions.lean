import Obsw.Fram.Accessors
import Obsw.Sdc.CopyFile

/-!
# `Sdc.Actions` — the action commands of the SD card handler

`SDCardHandler::executeAction`, with `clear_sd_card` and the block of `performOperation` that finishes a
change of the active card. Each branch mixes completions of its own with return codes from which the
action helper makes further reports. A change of the card is completed later, so what is counted is
completions and pending commands.
-/

namespace Obsw
namespace Sdc
namespace Actions

open CopyFile Device Memory

/-! ## `clear_sd_card` -/

/-- A file or directory of the root directory as the search finds it, and what deleting it returns. -/
structure Found where
  filename : String
  delete : Int
  deriving DecidableEq, Repr

/-- What `clear_sd_card` meets: what it finds one after the other, and whether the search ends because
    there is nothing more to find. -/
structure ClearOutcome where
  found : List Found
  complete : Bool

/-- The test of the first six characters against `SYSTEM`. -/
def Found.isSystem (f : Found) : Bool := f.filename.toList.take 6 = "SYSTEM".toList

/-- What the loop visits, of at most 255 passes. A first entry that is skipped costs no pass. -/
def ClearOutcome.visited (o : ClearOutcome) : List Found :=
  match o.found with
  | [] => []
  | first :: rest => if first.isSystem then rest.take 255 else (first :: rest).take 255

/-- The loop of `clear_sd_card`. Each entry that is not skipped is deleted, and the last error is kept. -/
def clearLoop : List Found → Int → Int
  | [],         status => status
  | f :: found, status =>
    if f.isSystem then clearLoop found status
    else clearLoop found (if f.delete ≠ 0 then f.delete else status)

/-- `clear_sd_card`. A search that fails at once ends it without an error. -/
def clearSdCard (o : ClearOutcome) : Int := clearLoop o.visited 0

/-! ## The searches of `printSdCard` -/

/-- What a search meets: files, directories with what the search in them meets, and an end, with whether
    there is nothing more to find. -/
inductive PrintSearch where
  | ended (complete : Bool)
  | file (next : PrintSearch)
  | directory (inside next : PrintSearch)
  deriving DecidableEq, Repr

/-- Everything that is there is printed, from pass `idx` of the loop on. A loop makes 255 passes, and a
    search that fails ends it like one that finds nothing more. -/
def PrintSearch.printed : Nat → PrintSearch → Bool
  | _,   .ended complete => complete
  | idx, .file next => decide (idx < 255) && next.printed (idx + 1)
  | idx, .directory inside next => decide (idx < 255) && inside.printed 0 && next.printed (idx + 1)

/-! ## The handler -/

def printSdCard : ActionId := 2
def selectActiveSdCard : ActionId := 5
def reportActiveSdCard : ActionId := 6
def selectPreferredSdCard : ActionId := 10
def reportPreferredSdCard : ActionId := 11
def setLoadObswUpdate : ActionId := 12
def getLoadObswUpdate : ActionId := 13
def clearSdCardAction : ActionId := 20
def formatSdCard : ActionId := 21
def cancelSdchOperations : ActionId := 30

/-- `currentAction` is `0xffffffff` when no change of the card is pending. -/
def noAction : ActionId := 0xffffffff

/-- The members of the handler that actions use, and the FRAM. -/
structure Handler where
  stateMachine : SDCHStateMachine
  sdCardChangeOngoing : Bool
  actionSender : MessageQueueId
  currentAction : ActionId
  fram : Mem UInt8

/-- What the calls of an action return: `reportData`, those of `clear_sd_card` and `printSdCard`,
    `f_format`, and the write to the FRAM with the bytes of its buffer that are not set. -/
structure ActionOutcome where
  reportData : Option Code
  clear : ClearOutcome
  print : PrintSearch
  format : Int
  write : WriteOutcome UInt8
  stack : Mem UInt8

/-- What `executeAction` returns, the reports it sends, and the handler behind it. -/
structure Executed where
  result : ExecutionResult Code
  reports : List (ActionReport Code)
  handler : Handler

/-- `actionHelper.finish` for the command. -/
def finish (c : ActionCommand) (success : Bool) (result : Option Code) : ActionReport Code :=
  .finish success c.commandedBy (.action c.actionId) result

/-- A result of the file system as a return value. -/
def fileSystemResult (retval : Int) : Option Code := if retval = 0 then none else some (.fileSystem retval)

/-- The branch of `SELECT_ACTIVE_SD_CARD`. -/
def executeSelectActive (c : ActionCommand) (h : Handler) : Executed :=
  if h.stateMachine.internalState ≠ .idle then ⟨.ok, [finish c false (some .isBusy)], h⟩
  else
    ⟨.ok, [.step 1 c.commandedBy (.action c.actionId) none],
      { h with
        sdCardChangeOngoing := true
        actionSender := c.commandedBy
        currentAction := c.actionId }⟩

/-- The branch of `REPORT_ACTIVE_SD_CARD`. -/
def executeReportActive (c : ActionCommand) (o : ActionOutcome) (h : Handler) : Executed :=
  match o.reportData with
  | none => ⟨.ok, [finish c true none], h⟩
  | some result => ⟨.ok, [finish c false (some result)], h⟩

/-- The branch of `CLEAR_SD_CARD`. -/
def executeClear (c : ActionCommand) (o : ActionOutcome) (h : Handler) : Executed :=
  let retval := clearSdCard o.clear
  if retval ≠ 0 then ⟨.ok, [finish c false (fileSystemResult retval)], h⟩
  else ⟨.ok, [finish c true none], h⟩

/-- The branch of `FORMAT_SD_CARD`. The comparison is the wrong way round, and the success is behind both
    branches. -/
def executeFormat (c : ActionCommand) (o : ActionOutcome) (h : Handler) : Executed :=
  if o.format ≠ 0 then ⟨.ok, [finish c true (fileSystemResult o.format)], h⟩
  else ⟨.ok, [finish c false none, finish c true none], h⟩

/-- The call of `fram_set_to_load_softwareupdate`. -/
def setToLoad (enable : Bool) (volume : VolumeId) (o : ActionOutcome) (h : Handler) : Int × Mem UInt8 :=
  Fram.framSetToLoadSoftwareupdate o.write h.fram enable volume o.stack

/-- The end of the branch of `SET_LOAD_OBSW_UPDATE`. -/
def executeSetToLoad (enable : Bool) (volume : VolumeId) (o : ActionOutcome) (h : Handler) : Executed :=
  let set := setToLoad enable volume o h
  if set.1 ≠ 0 then ⟨.failed .returnFailed, [], { h with fram := set.2 }⟩
  else ⟨.ok, [], { h with fram := set.2 }⟩

/-- The branch of `SET_LOAD_OBSW_UPDATE`. No volume is equal to both cards, so none is accepted. -/
def executeSetLoadObswUpdate (c : ActionCommand) (o : ActionOutcome) (h : Handler) : Executed :=
  match c.data with
  | [] => ⟨.failed .invalidParameters, [], h⟩
  | enable :: rest =>
    if enable > 1 then ⟨.failed .invalidParameters, [], h⟩
    else if enable ≠ 0 then
      match rest with
      | [] => ⟨.failed .invalidParameters, [], h⟩
      | volume :: _ =>
        if volume ≠ 0 ∨ volume ≠ 1 then ⟨.failed .invalidParameters, [], h⟩
        else executeSetToLoad true (if volume = 0 then .sdCard0 else .sdCard1) o h
    else executeSetToLoad false .sdCard0 o h

/-- `executeAction`. -/
def executeAction (c : ActionCommand) (o : ActionOutcome) (h : Handler) : Executed :=
  if c.actionId = selectActiveSdCard then executeSelectActive c h
  else if c.actionId = reportActiveSdCard then executeReportActive c o h
  else if c.actionId = selectPreferredSdCard then ⟨.ok, [], h⟩
  else if c.actionId = reportPreferredSdCard then ⟨.ok, [], h⟩
  -- `printSdCard` returns `RETURN_OK` on every path, a failing search included
  else if c.actionId = printSdCard then ⟨.ok, [finish c true none], h⟩
  else if c.actionId = clearSdCardAction then executeClear c o h
  else if c.actionId = formatSdCard then executeFormat c o h
  else if c.actionId = setLoadObswUpdate then executeSetLoadObswUpdate c o h
  else if c.actionId = getLoadObswUpdate then ⟨.ok, [], h⟩
  else if c.actionId = cancelSdchOperations then
    ⟨.ok, [finish c true none], { h with stateMachine := h.stateMachine.resetAndSetToIdle }⟩
  else ⟨.failed .unknownCommand, [], h⟩

/-- The reports of a command: those of `executeAction`, and what the action helper makes of its result. -/
def Executed.allReports (c : ActionCommand) (x : Executed) : List (ActionReport Code) :=
  x.reports ++ [reportExecution c x.result]

/-- The block of `performOperation` that finishes a change, for what `tryActiveSdCardChange` returns. -/
def finishSdCardChange (changeSuccess : Bool) (h : Handler) : List (ActionReport Code) × Handler :=
  if h.sdCardChangeOngoing ∧ changeSuccess then
    ([.finish true h.actionSender (.action h.currentAction) none],
      { h with sdCardChangeOngoing := false, currentAction := noAction, actionSender := noQueue })
  else ([], h)

/-- The attempts to change the card behind a command. -/
def finishAttempts : List Bool → Handler → List (ActionReport Code) × Handler
  | [],                        h => ([], h)
  | changeSuccess :: attempts, h =>
    let finished := finishSdCardChange changeSuccess h
    let rest := finishAttempts attempts finished.2
    (finished.1 ++ rest.1, rest.2)

/-! ## What a command is told -/

/-- A completion: its success, the queue it goes to, and the action it names. -/
structure Completion where
  success : Bool
  reportTo : MessageQueueId
  commandId : CommandId Code
  deriving DecidableEq, Repr

/-- A failure of the start is the completion of a command as well. -/
def completions (reports : List (ActionReport Code)) : List Completion :=
  reports.filterMap fun
    | .finish success reportTo commandId _ => some ⟨success, reportTo, commandId⟩
    | .failure reportTo commandId _ => some ⟨false, reportTo, commandId⟩
    | _ => none

/-- How many completions go to a requester for an action. -/
def completed (requester : MessageQueueId) (action : ActionId) (reports : List (ActionReport Code)) :
    Nat :=
  (completions reports).countP (fun m => m.reportTo = requester ∧ m.commandId = .action action)

/-- Whether the handler owes a requester the completion of an action, as a number. -/
def pending (requester : MessageQueueId) (action : ActionId) (h : Handler) : Nat :=
  if h.sdCardChangeOngoing = true ∧ h.actionSender = requester ∧ h.currentAction = action then 1 else 0

/-- Whether the command is one of the requester for the action, as a number. -/
def commanded (requester : MessageQueueId) (action : ActionId) (c : ActionCommand) : Nat :=
  if c.commandedBy = requester ∧ c.actionId = action then 1 else 0

/-- All that is found, but for the `SYSTEM` folder, is deleted. -/
def ClearOutcome.Cleared (o : ClearOutcome) : Prop :=
  o.complete = true ∧
    ∀ f ∈ o.found, f.filename ≠ "SYSTEM" → f ∈ o.visited ∧ f.isSystem = false ∧ f.delete = 0

/-- The operation of a command succeeds before `executeAction` returns. The card is changed later; an
    update cannot be enabled, and the other actions do nothing yet. -/
def Succeeds (c : ActionCommand) (o : ActionOutcome) (h : Handler) : Prop :=
  if c.actionId = reportActiveSdCard then o.reportData = none
  else if c.actionId = cancelSdchOperations then True
  else if c.actionId = printSdCard then o.print.printed 0 = true
  else if c.actionId = clearSdCardAction then o.clear.Cleared
  else if c.actionId = formatSdCard then o.format = 0
  else if c.actionId = setLoadObswUpdate then
    c.data.head? = some 0 ∧ (setToLoad false .sdCard0 o h).1 = 0
  else False

/-- Each command has one completion or is pending, whatever attempts to change the card follow it. A
    completion made for the command tells whether its operation has succeeded; one made later is a success
    and comes when the card has been changed. -/
def Completed (c : ActionCommand) (o : ActionOutcome) (h : Handler) : Prop :=
  ∀ attempts : List Bool,
    let x := executeAction c o h
    let finished := finishAttempts attempts x.handler
    (∀ requester action, completed requester action (x.allReports c ++ finished.1) +
        pending requester action finished.2 =
      pending requester action h + commanded requester action c) ∧
    (∀ m ∈ completions (x.allReports c), m.success = true ↔ Succeeds c o h) ∧
    ∀ m ∈ completions finished.1, m.success = true ∧ true ∈ attempts

/-- The condition under which a command is completed once. -/
def CompletesOnce (c : ActionCommand) (o : ActionOutcome) (h : Handler) : Prop :=
  if c.actionId = selectActiveSdCard then
    h.stateMachine.internalState ≠ .idle ∨ h.sdCardChangeOngoing = false
  else if c.actionId = clearSdCardAction then
    (∃ f ∈ o.clear.visited, f.isSystem = false ∧ f.delete ≠ 0) ∨
      o.clear.complete = true ∧
        ∀ f ∈ o.clear.found, f.filename ≠ "SYSTEM" → f ∈ o.clear.visited ∧ f.isSystem = false
  else if c.actionId = setLoadObswUpdate then
    c.data.head? = some 0 → (setToLoad false .sdCard0 o h).1 ≠ 0
  else if c.actionId = printSdCard then o.print.printed 0 = true
  else
    c.actionId ≠ formatSdCard ∧ c.actionId ≠ selectPreferredSdCard ∧
      c.actionId ≠ reportPreferredSdCard ∧ c.actionId ≠ getLoadObswUpdate

/-! ## Clearing the card -/

theorem clearLoop_eq_zero_iff (found : List Found) :
    ∀ status, clearLoop found status = 0 ↔
      (∀ f ∈ found, f.isSystem = false → f.delete = 0) ∧ status = 0 := by
  induction found with
  | nil => simp [clearLoop]
  | cons f found ih =>
      intro status
      unfold clearLoop
      by_cases hsystem : f.isSystem = true
      · rw [if_pos hsystem, ih, List.forall_mem_cons]
        simp [hsystem]
      · rw [if_neg hsystem, ih, List.forall_mem_cons]
        by_cases hdelete : f.delete = 0
        · simp [hdelete]
        · simp [hdelete, hsystem]

theorem ClearOutcome.visited_subset {o : ClearOutcome} : o.visited ⊆ o.found := by
  unfold ClearOutcome.visited
  cases o.found with
  | nil => exact fun f hf => hf
  | cons first rest =>
      intro f hf
      dsimp only at hf
      split at hf
      · exact List.mem_cons_of_mem _ (List.mem_of_mem_take hf)
      · exact List.mem_of_mem_take hf

theorem Found.filename_ne_of_not_isSystem {f : Found} (h : f.isSystem = false) :
    f.filename ≠ "SYSTEM" := by
  rintro hname
  rw [Found.isSystem, hname] at h
  exact absurd h (by decide)

/-- `clear_sd_card` reports that the card is clear exactly if it is, under the condition. -/
theorem clearSdCard_truthful_iff {o : ClearOutcome} :
    (clearSdCard o = 0 ↔ o.Cleared) ↔
      (∃ f ∈ o.visited, f.isSystem = false ∧ f.delete ≠ 0) ∨
        o.complete = true ∧
          ∀ f ∈ o.found, f.filename ≠ "SYSTEM" → f ∈ o.visited ∧ f.isSystem = false := by
  have hzero : clearSdCard o = 0 ↔ ∀ f ∈ o.visited, f.isSystem = false → f.delete = 0 := by
    rw [clearSdCard, clearLoop_eq_zero_iff, and_iff_left rfl]
  rw [hzero]
  constructor
  · intro htruth
    by_cases hall : ∀ f ∈ o.visited, f.isSystem = false → f.delete = 0
    · obtain ⟨hcomplete, hcleared⟩ := htruth.mp hall
      exact .inr ⟨hcomplete, fun f hf hname =>
        ⟨(hcleared f hf hname).1, (hcleared f hf hname).2.1⟩⟩
    · push Not at hall
      exact .inl hall
  · rintro (⟨f, hf, hsystem, hdelete⟩ | ⟨hcomplete, hfound⟩)
    · refine iff_of_false (fun hall => hdelete (hall f hf hsystem)) ?_
      rintro ⟨_, hcleared⟩
      exact hdelete (hcleared f (ClearOutcome.visited_subset hf)
        (Found.filename_ne_of_not_isSystem hsystem)).2.2
    · constructor
      · intro hall
        refine ⟨hcomplete, fun f hf hname => ?_⟩
        obtain ⟨hvisited, hsystem⟩ := hfound f hf hname
        exact ⟨hvisited, hsystem, hall f hvisited hsystem⟩
      · rintro ⟨_, hcleared⟩ f hf hsystem
        exact (hcleared f (ClearOutcome.visited_subset hf)
          (Found.filename_ne_of_not_isSystem hsystem)).2.2

/-! ## Counting completions -/

section Counting

variable {requester : MessageQueueId} {action : ActionId} {c : ActionCommand} {o : ActionOutcome}
  {h : Handler}

theorem completions_append (reports reports' : List (ActionReport Code)) :
    completions (reports ++ reports') = completions reports ++ completions reports' :=
  List.filterMap_append

theorem completed_append (reports reports' : List (ActionReport Code)) :
    completed requester action (reports ++ reports') =
      completed requester action reports + completed requester action reports' := by
  rw [completed, completions_append, List.countP_append]
  rfl

/-- A completion for the command. -/
def told (c : ActionCommand) (success : Bool) : Completion :=
  ⟨success, c.commandedBy, .action c.actionId⟩

/-- Completions for a command count for its requester and its action only. -/
theorem completed_of_told {reports : List (ActionReport Code)} {successes : List Bool}
    (htold : completions reports = successes.map (told c)) :
    completed requester action reports = successes.length * commanded requester action c := by
  have hmap : ∀ m ∈ completions reports, m.reportTo = c.commandedBy ∧
      m.commandId = .action c.actionId := by
    intro m hm
    rw [htold] at hm
    obtain ⟨success, _, rfl⟩ := List.mem_map.mp hm
    exact ⟨rfl, rfl⟩
  have hlength : (completions reports).length = successes.length := by
    rw [htold, List.length_map]
  unfold completed commanded
  by_cases hfor : c.commandedBy = requester ∧ c.actionId = action
  · rw [if_pos hfor, Nat.mul_one, ← hlength, List.countP_eq_length]
    intro m hm
    obtain ⟨hreport, hid⟩ := hmap m hm
    simp [hreport, hid, hfor]
  · rw [if_neg hfor, Nat.mul_zero, List.countP_eq_zero]
    intro m hm hcounts
    obtain ⟨hreport, hid⟩ := hmap m hm
    simp only [hreport, hid, CommandId.action.injEq, decide_eq_true_eq] at hcounts
    exact hfor hcounts

/-- A change that is finished turns the pending command into a completion. -/
theorem finishSdCardChange_balanced (changeSuccess : Bool) (h : Handler) :
    completed requester action (finishSdCardChange changeSuccess h).1 +
        pending requester action (finishSdCardChange changeSuccess h).2 =
      pending requester action h := by
  unfold finishSdCardChange
  by_cases hdone : h.sdCardChangeOngoing = true ∧ changeSuccess = true
  · rw [if_pos hdone]
    simp [completed, completions, pending, hdone.1, List.countP_cons]
  · rw [if_neg hdone]
    simp [completed, completions]

theorem finishAttempts_balanced (attempts : List Bool) :
    ∀ h : Handler, completed requester action (finishAttempts attempts h).1 +
        pending requester action (finishAttempts attempts h).2 =
      pending requester action h := by
  induction attempts with
  | nil => simp [finishAttempts, completed, completions]
  | cons changeSuccess attempts ih =>
      intro h
      have hstep : _ = pending requester action h := finishSdCardChange_balanced changeSuccess h
      have hrest := ih (finishSdCardChange changeSuccess h).2
      rw [finishAttempts, completed_append]
      dsimp only
      omega

theorem finishSdCardChange_success {changeSuccess : Bool} {h : Handler} :
    ∀ m ∈ completions (finishSdCardChange changeSuccess h).1,
      m.success = true ∧ changeSuccess = true := by
  unfold finishSdCardChange
  by_cases hdone : h.sdCardChangeOngoing = true ∧ changeSuccess = true
  · rw [if_pos hdone]
    simp [completions, hdone.2]
  · rw [if_neg hdone]
    simp [completions]

theorem finishAttempts_success (attempts : List Bool) :
    ∀ h : Handler, ∀ m ∈ completions (finishAttempts attempts h).1,
      m.success = true ∧ true ∈ attempts := by
  induction attempts with
  | nil => simp [finishAttempts, completions]
  | cons changeSuccess attempts ih =>
      intro h m hm
      rw [finishAttempts, completions_append] at hm
      rcases List.mem_append.mp hm with hm | hm
      · obtain ⟨hsuccess, rfl⟩ := finishSdCardChange_success m hm
        exact ⟨hsuccess, List.mem_cons_self⟩
      · obtain ⟨hsuccess, hmem⟩ := ih _ m hm
        exact ⟨hsuccess, List.mem_cons_of_mem _ hmem⟩

/-- What follows the command keeps the balance, so the command alone decides. -/
theorem completed_iff :
    Completed c o h ↔
      (∀ requester action, completed requester action ((executeAction c o h).allReports c) +
          pending requester action (executeAction c o h).handler =
        pending requester action h + commanded requester action c) ∧
      ∀ m ∈ completions ((executeAction c o h).allReports c), m.success = true ↔ Succeeds c o h := by
  constructor
  · intro hcompleted
    obtain ⟨hbalance, htruth, _⟩ := hcompleted []
    exact ⟨by simpa [finishAttempts] using hbalance, htruth⟩
  · rintro ⟨hbalance, htruth⟩ attempts
    refine ⟨fun requester action => ?_, htruth, finishAttempts_success attempts _⟩
    have hlater : _ = pending requester action (executeAction c o h).handler :=
      finishAttempts_balanced attempts _
    have hnow := hbalance requester action
    rw [completed_append]
    omega

/-- A command that leaves the pending one alone needs one completion. -/
theorem completed_iff_of_told {x : Executed} (successes : List Bool) (hrun : executeAction c o h = x)
    (htold : completions (x.allReports c) = successes.map (told c))
    (hkept : ∀ requester action, pending requester action x.handler = pending requester action h) :
    Completed c o h ↔ ∃ success, successes = [success] ∧ (success = true ↔ Succeeds c o h) := by
  rw [completed_iff, hrun]
  constructor
  · rintro ⟨hbalance, htruth⟩
    have hone := hbalance c.commandedBy c.actionId
    rw [completed_of_told htold, hkept, commanded, if_pos ⟨rfl, rfl⟩] at hone
    obtain ⟨success, rfl⟩ := List.length_eq_one_iff.mp (by omega : successes.length = 1)
    refine ⟨success, rfl, ?_⟩
    exact htruth (told c success) (by rw [htold]; exact List.mem_singleton_self _)
  · rintro ⟨success, rfl, htruth⟩
    constructor
    · intro requester action
      rw [completed_of_told htold, hkept, List.length_singleton]
      omega
    · intro m hm
      rw [htold] at hm
      obtain rfl := List.mem_singleton.mp hm
      exact htruth

variable {h' : Handler} {result : Option Code} {code : Code}

theorem completed_iff_of_finish {success : Bool}
    (hrun : executeAction c o h = ⟨.ok, [finish c success result], h'⟩)
    (hkept : ∀ requester action, pending requester action h' = pending requester action h) :
    Completed c o h ↔ (success = true ↔ Succeeds c o h) := by
  rw [completed_iff_of_told [success] hrun rfl hkept]
  simp

theorem completed_iff_of_failed (hrun : executeAction c o h = ⟨.failed code, [], h'⟩)
    (hkept : ∀ requester action, pending requester action h' = pending requester action h) :
    Completed c o h ↔ ¬ Succeeds c o h := by
  rw [completed_iff_of_told [false] hrun rfl hkept]
  simp

/-- A start alone is no completion. -/
theorem not_completed_of_start (hrun : executeAction c o h = ⟨.ok, [], h'⟩)
    (hkept : ∀ requester action, pending requester action h' = pending requester action h) :
    ¬ Completed c o h := by
  rw [completed_iff_of_told [] hrun rfl hkept]
  simp

end Counting

/-! ## The actions -/

section Commands

variable {c : ActionCommand} {o : ActionOutcome} {h : Handler}

/-- A rejection when the state machine is busy; else the command is pending, in the place of another one
    if the card is to be changed already. -/
theorem selectActive_completed_iff (hid : c.actionId = selectActiveSdCard) :
    Completed c o h ↔ CompletesOnce c o h := by
  have honce : CompletesOnce c o h ↔
      h.stateMachine.internalState ≠ .idle ∨ h.sdCardChangeOngoing = false := by
    rw [CompletesOnce, if_pos hid]
  have hsucceeds : ¬ Succeeds c o h := by
    rw [Succeeds, hid]
    exact id
  have hrun : executeAction c o h = executeSelectActive c h := by rw [executeAction, if_pos hid]
  unfold executeSelectActive at hrun
  rw [honce]
  by_cases hidle : h.stateMachine.internalState = .idle
  · rw [if_neg (not_not.mpr hidle)] at hrun
    rw [completed_iff, hrun, or_iff_right (not_not.mpr hidle)]
    constructor
    · rintro ⟨hbalance, _⟩
      by_contra hongoing
      have hongoing : h.sdCardChangeOngoing = true := by simpa using hongoing
      -- the command that was pending is neither completed nor pending any more
      have hlost := hbalance h.actionSender h.currentAction
      simp [completed, completions, Executed.allReports, reportExecution, pending, commanded,
        hongoing] at hlost
    · intro hfree
      refine ⟨fun requester action => ?_, fun m hm => nomatch hm⟩
      simp [completed, completions, Executed.allReports, reportExecution, pending, commanded, hfree]
  · rw [if_pos hidle] at hrun
    rw [completed_iff_of_finish hrun (fun _ _ => rfl)]
    simp [hidle, hsucceeds]

theorem reportActive_completed (hid : c.actionId = reportActiveSdCard) : Completed c o h := by
  have hsucceeds : Succeeds c o h ↔ o.reportData = none := by rw [Succeeds, if_pos hid]
  have hrun : executeAction c o h = executeReportActive c o h := by
    rw [executeAction, hid]
    rfl
  unfold executeReportActive at hrun
  cases hreport : o.reportData with
  | none =>
      rw [hreport] at hrun
      rw [completed_iff_of_finish hrun (fun _ _ => rfl), hsucceeds]
      simp [hreport]
  | some result =>
      rw [hreport] at hrun
      rw [completed_iff_of_finish hrun (fun _ _ => rfl), hsucceeds]
      simp [hreport]

theorem clear_completed_iff (hid : c.actionId = clearSdCardAction) :
    Completed c o h ↔ CompletesOnce c o h := by
  have honce : CompletesOnce c o h ↔ (clearSdCard o.clear = 0 ↔ o.clear.Cleared) := by
    rw [clearSdCard_truthful_iff, CompletesOnce, hid]
    exact Iff.rfl
  have hsucceeds : Succeeds c o h ↔ o.clear.Cleared := by
    rw [Succeeds, hid]
    exact Iff.rfl
  have hrun : executeAction c o h = executeClear c o h := by
    rw [executeAction, hid]
    rfl
  unfold executeClear at hrun
  rw [honce]
  by_cases hzero : clearSdCard o.clear = 0
  · rw [if_neg (not_not.mpr hzero)] at hrun
    rw [completed_iff_of_finish hrun (fun _ _ => rfl), hsucceeds]
    simp [hzero]
  · rw [if_pos hzero] at hrun
    rw [completed_iff_of_finish hrun (fun _ _ => rfl), hsucceeds]
    simp [hzero]

/-- A format is reported twice, or as a success when it fails. -/
theorem format_not_completed (hid : c.actionId = formatSdCard) : ¬ Completed c o h := by
  have hsucceeds : Succeeds c o h ↔ o.format = 0 := by
    rw [Succeeds, hid]
    exact Iff.rfl
  have hrun : executeAction c o h = executeFormat c o h := by
    rw [executeAction, hid]
    rfl
  unfold executeFormat at hrun
  by_cases hzero : o.format = 0
  · -- a failure, and a success behind it
    rw [if_neg (not_not.mpr hzero)] at hrun
    rw [completed_iff_of_told [false, true] hrun rfl (fun _ _ => rfl)]
    simp
  · rw [if_pos hzero] at hrun
    rw [completed_iff_of_finish hrun (fun _ _ => rfl), hsucceeds]
    simp [hzero]

/-- Parameters are turned away with a failure; a request that is withdrawn is reported if the FRAM cannot
    be written, and not otherwise. -/
theorem setLoadObswUpdate_completed_iff (hid : c.actionId = setLoadObswUpdate) :
    Completed c o h ↔ CompletesOnce c o h := by
  have honce : CompletesOnce c o h ↔
      (c.data.head? = some 0 → (setToLoad false .sdCard0 o h).1 ≠ 0) := by
    rw [CompletesOnce, hid]
    exact Iff.rfl
  have hsucceeds : Succeeds c o h ↔
      c.data.head? = some 0 ∧ (setToLoad false .sdCard0 o h).1 = 0 := by
    rw [Succeeds, hid]
    exact Iff.rfl
  have hrun : executeAction c o h = executeSetLoadObswUpdate c o h := by
    rw [executeAction, hid]
    rfl
  unfold executeSetLoadObswUpdate at hrun
  rw [honce]
  cases hdata : c.data with
  | nil =>
      rw [hdata] at hrun
      rw [completed_iff_of_failed hrun (fun _ _ => rfl), hsucceeds]
      simp [hdata]
  | cons enable rest =>
      simp only [hdata] at hrun
      by_cases hlarge : enable > 1
      · rw [if_pos hlarge] at hrun
        have hne : enable ≠ 0 := by
          rintro rfl
          exact absurd hlarge (by decide)
        rw [completed_iff_of_failed hrun (fun _ _ => rfl), hsucceeds]
        simp [hdata, hne]
      rw [if_neg hlarge] at hrun
      by_cases henable : enable = 0
      · rw [if_neg (not_not.mpr henable)] at hrun
        unfold executeSetToLoad at hrun
        by_cases hwrite : (setToLoad false .sdCard0 o h).1 = 0
        · -- `RETURN_OK` starts the command, and nothing finishes it
          rw [if_neg (not_not.mpr hwrite)] at hrun
          refine iff_of_false (not_completed_of_start hrun (fun _ _ => rfl)) ?_
          simp [henable, hwrite]
        · rw [if_pos hwrite] at hrun
          rw [completed_iff_of_failed hrun (fun _ _ => rfl), hsucceeds]
          simp [hwrite]
      · rw [if_pos henable] at hrun
        cases rest with
        | nil =>
            rw [completed_iff_of_failed hrun (fun _ _ => rfl), hsucceeds]
            simp [hdata, henable]
        | cons volume rest =>
            -- no volume is both cards
            have hvolume : volume ≠ 0 ∨ volume ≠ 1 := by
              by_cases hzero : volume = 0
              · exact .inr (by rw [hzero]; decide)
              · exact .inl hzero
            dsimp only at hrun
            rw [if_pos hvolume] at hrun
            rw [completed_iff_of_failed hrun (fun _ _ => rfl), hsucceeds]
            simp [hdata, henable]

/-- The branches that are still to be written are never completed. -/
theorem unwritten_not_completed (hid : c.actionId = selectPreferredSdCard ∨
    c.actionId = reportPreferredSdCard ∨ c.actionId = getLoadObswUpdate) : ¬ Completed c o h := by
  have hrun : executeAction c o h = ⟨.ok, [], h⟩ := by
    rcases hid with hid | hid | hid
    · rw [executeAction, hid]
      rfl
    · rw [executeAction, hid]
      rfl
    · rw [executeAction, hid]
      rfl
  exact not_completed_of_start hrun (fun _ _ => rfl)

/-- The listing is reported as a success, whatever has been printed. -/
theorem print_completed_iff (hid : c.actionId = printSdCard) :
    Completed c o h ↔ CompletesOnce c o h := by
  have honce : CompletesOnce c o h ↔ o.print.printed 0 = true := by
    rw [CompletesOnce, hid]
    exact Iff.rfl
  have hsucceeds : Succeeds c o h ↔ o.print.printed 0 = true := by
    rw [Succeeds, hid]
    exact Iff.rfl
  have hrun : executeAction c o h = ⟨.ok, [finish c true none], h⟩ := by
    rw [executeAction, hid]
    rfl
  rw [completed_iff_of_finish hrun (fun _ _ => rfl), hsucceeds, honce]
  simp

theorem cancel_completed (hid : c.actionId = cancelSdchOperations) : Completed c o h := by
  have hrun : executeAction c o h = ⟨.ok, [finish c true none],
      { h with stateMachine := h.stateMachine.resetAndSetToIdle }⟩ := by
    rw [executeAction, hid]
    rfl
  rw [completed_iff_of_finish hrun (fun _ _ => rfl), Succeeds, hid]
  exact iff_of_true rfl trivial

end Commands

theorem executeSetLoadObswUpdate_stateMachine (c : ActionCommand) (o : ActionOutcome) (h : Handler) :
    (executeSetLoadObswUpdate c o h).handler.stateMachine = h.stateMachine := by
  have hset : ∀ enable volume,
      (executeSetToLoad enable volume o h).handler.stateMachine = h.stateMachine := by
    intro enable volume
    unfold executeSetToLoad
    dsimp only
    split <;> rfl
  unfold executeSetLoadObswUpdate
  split
  · rfl
  · split
    · rfl
    · split
      · split
        · rfl
        · split
          · rfl
          · exact hset _ _
      · exact hset _ _

/-- Only the cancellation touches the state machine. -/
theorem executeAction_stateMachine {c : ActionCommand} (o : ActionOutcome) (h : Handler)
    (hcancel : c.actionId ≠ cancelSdchOperations) :
    (executeAction c o h).handler.stateMachine = h.stateMachine := by
  have hselect : (executeSelectActive c h).handler.stateMachine = h.stateMachine := by
    unfold executeSelectActive
    split <;> rfl
  have hreport : (executeReportActive c o h).handler.stateMachine = h.stateMachine := by
    unfold executeReportActive
    split <;> rfl
  have hclear : (executeClear c o h).handler.stateMachine = h.stateMachine := by
    unfold executeClear
    dsimp only
    split <;> rfl
  have hformat : (executeFormat c o h).handler.stateMachine = h.stateMachine := by
    unfold executeFormat
    split <;> rfl
  have hload := executeSetLoadObswUpdate_stateMachine c o h
  unfold executeAction
  rw [if_neg hcancel]
  simp only [apply_ite Executed.handler, apply_ite Handler.stateMachine, hselect, hreport, hclear,
    hformat, hload, ite_self]

/-- The cancellation resets the state machine, and changes nothing else. -/
theorem executeAction_cancel {c : ActionCommand} (o : ActionOutcome) (h : Handler)
    (hcancel : c.actionId = cancelSdchOperations) :
    (executeAction c o h).handler = { h with stateMachine := h.stateMachine.resetAndSetToIdle } := by
  unfold executeAction
  rw [hcancel]
  rfl

/-- **Completion of action commands.** A command is completed once, and by what has happened, exactly
    under the condition. -/
theorem executeAction_completed_iff (c : ActionCommand) (o : ActionOutcome) (h : Handler) :
    Completed c o h ↔ CompletesOnce c o h := by
  by_cases hselect : c.actionId = selectActiveSdCard
  · exact selectActive_completed_iff hselect
  by_cases hclear : c.actionId = clearSdCardAction
  · exact clear_completed_iff hclear
  by_cases hload : c.actionId = setLoadObswUpdate
  · exact setLoadObswUpdate_completed_iff hload
  by_cases hprint : c.actionId = printSdCard
  · exact print_completed_iff hprint
  rw [CompletesOnce, if_neg hselect, if_neg hclear, if_neg hload, if_neg hprint]
  by_cases hformat : c.actionId = formatSdCard
  · exact iff_of_false (format_not_completed hformat) (fun hother => hother.1 hformat)
  by_cases hunwritten : c.actionId = selectPreferredSdCard ∨ c.actionId = reportPreferredSdCard ∨
      c.actionId = getLoadObswUpdate
  · apply iff_of_false (unwritten_not_completed hunwritten)
    rintro ⟨_, hselects, hreports, hloads⟩
    rcases hunwritten with hid | hid | hid
    · exact hselects hid
    · exact hreports hid
    · exact hloads hid
  obtain ⟨hselects, hwritten⟩ := not_or.mp hunwritten
  obtain ⟨hreports, hloads⟩ := not_or.mp hwritten
  refine iff_of_true ?_ ⟨hformat, hselects, hreports, hloads⟩
  by_cases hreport : c.actionId = reportActiveSdCard
  · exact reportActive_completed hreport
  by_cases hcancel : c.actionId = cancelSdchOperations
  · exact cancel_completed hcancel
  -- no action of the handler
  have hrun : executeAction c o h = ⟨.failed .unknownCommand, [], h⟩ := by
    rw [executeAction, if_neg hselect, if_neg hreport, if_neg hselects, if_neg hreports, if_neg hprint,
      if_neg hclear, if_neg hformat, if_neg hload, if_neg hloads, if_neg hcancel]
  rw [completed_iff_of_failed hrun (fun _ _ => rfl), Succeeds, if_neg hreport,
    if_neg hcancel, if_neg hprint, if_neg hclear, if_neg hformat, if_neg hload]
  exact id

/-- A format of the card that succeeds. -/
def formatted : ActionOutcome where
  reportData := none
  clear := ⟨[], true⟩
  print := .ended true
  format := 0
  write := .done
  stack := fun _ => 0

/-- The handler at startup. -/
def Handler.initial (fram : Mem UInt8) : Handler := ⟨.initial, false, noQueue, noAction, fram⟩

/-- **A format that succeeds is reported as a failure and as a success.** -/
theorem formatSdCard_not_completed :
    completions ((executeAction ⟨formatSdCard, 1, []⟩ formatted (.initial fun _ => 0)).allReports
        ⟨formatSdCard, 1, []⟩) =
      [⟨false, 1, .action formatSdCard⟩, ⟨true, 1, .action formatSdCard⟩] ∧
    ¬ Completed ⟨formatSdCard, 1, []⟩ formatted (.initial fun _ => 0) :=
  ⟨rfl, format_not_completed rfl⟩

end Actions
end Sdc
end Obsw
