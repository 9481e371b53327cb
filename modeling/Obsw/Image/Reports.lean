import Obsw.Engine.NorFlash
import Obsw.Image.Handler
import Obsw.Lib.Requests

/-!
# `Image.Reports` — the reports of the software image handler over its cycles

`SoftwareImageHandler::performOperation`: up to five messages are handled, and then the running operation
is continued until the countdown is no longer busy. The log of a run holds the calls of `executeAction`
and of `continueCurrentOperation` with what they returned and the reports behind them.
-/

namespace Obsw
namespace Image

open Engine Fram Device Memory Loop Requests

/-! ## A cycle -/

/-- What `receiveMessage` brings: nothing, an action command with its data and the FRAM's answer should
    it write the hamming flag, or a message on which no action is executed. -/
inductive Reception where
  | empty
  | action (c : ActionCommand) (flagWrite : WriteOutcome UInt8)
  | other

/-- What a pass of the state machine meets. -/
structure Pass where
  countdownBusy : Bool
  call : OperationCall

/-- A cycle of the task. -/
structure Cycle where
  receptions : List Reception
  passes : List Pass

/-- An entry of the log. -/
inductive Entry where
  | command (c : ActionCommand) (result : ExecutionResult Code) (reports : List Report)
  | continued (result : ReturnValue) (reports : List Report)
  deriving DecidableEq

/-- The handler, the memories of the board, and the log of the run. -/
structure System where
  handler : SoftwareImageHandler
  devices : Devices
  log : List Entry

def maxMessagesHandled : Nat := 5

/-- One message of `handleMessages`. -/
def receive (board : Board) (reception : Reception) (s : System) : System :=
  match reception with
  | .empty | .other => s
  | .action c flagWrite =>
    let executed := executeAction board flagWrite c s.handler s.devices.fram
    { handler := executed.1.2.2
      devices := { s.devices with fram := executed.2 }
      log := s.log ++ [.command c executed.1.1 executed.1.2.1] }

/-- The receptions up to the first empty one. -/
def received (receptions : List Reception) : List Reception :=
  (receptions.take maxMessagesHandled).takeWhile fun
    | .empty => false
    | _ => true

/-- `handleMessages`. -/
def handleMessages (board : Board) (receptions : List Reception) (s : System) : System :=
  run (receive board) (received receptions) s

/-- What the state machine makes of the result of `continueCurrentOperation`. -/
def concludeOperation (result : ReturnValue) (h : SoftwareImageHandler) :
    List Report × SoftwareImageHandler :=
  if result = .taskPeriodOverSoon then ([], h)
  else if result = .returnFailed then
    ([], { h with imgCpHelper := h.imgCpHelper.reset, handlerState := .idle })
  else
    ([.finish true h.recipient (.action h.currentAction) none],
      { handlerState := .idle
        recipient := noQueue
        currentAction := noAction
        imgCpHelper := h.imgCpHelper.reset })

/-- One pass of the loop of `performStateMachine`. -/
def statePass (board : Board) (hal : NorHal) (pass : Pass) (s : System) :
    Option (Flow Unit System) :=
  if ¬ pass.countdownBusy then some (.ret () s)
  else
    match s.handler.handlerState with
    | .idle => some (.ret () s)
    | .copying =>
      match continueCurrentOperation board hal pass.call s.handler.imgCpHelper s.devices with
      | none => none
      | some (result, engine, devices) =>
        let concluded := concludeOperation result { s.handler with imgCpHelper := engine }
        let s := { handler := concluded.2
                   devices := devices
                   log := s.log ++ [.continued result concluded.1] }
        if result = .taskPeriodOverSoon then some (.ret () s) else some (.next s)
    | .scrubbing => some (.next s)

/-- `performStateMachine`. -/
def performStateMachine (board : Board) (hal : NorHal) (passes : List Pass) (s : System) :
    Option System :=
  match whileLoop (fun _ => true) (statePass board hal) passes s with
  | none => none
  | some (.next s) => some s
  | some (.ret _ s) => some s

/-- `performOperation`. -/
def performOperation (board : Board) (hal : NorHal) (cycle : Cycle) (s : System) :
    Option (Flow Unit System) :=
  (performStateMachine board hal cycle.passes (handleMessages board cycle.receptions s)).map .next

/-- The cycles of the task, one after the other. -/
def runCycles (board : Board) (hal : NorHal) (cycles : List Cycle) (s : System) : Option System :=
  passes (fun _ => true) (performOperation board hal) cycles s

/-- The handler as it is constructed, on a board in any state. -/
def System.initial (devices : Devices) : System := ⟨.initial, devices, []⟩

/-! ## What the requesters are told -/

/-- A completion report, and what the engine returned before it was sent (nothing, when it is sent by
    `executeAction`). -/
structure Completion where
  report : Report
  ended : Option ReturnValue

def isFinish : Report → Bool
  | .finish .. => true
  | _ => false

/-- The completions among some reports. -/
def completions (ended : Option ReturnValue) (reports : List Report) :
    List (Event ActionCommand Completion) :=
  (reports.filter isFinish).map fun report => .answer ⟨report, ended⟩

/-- A command function that returns `RETURN_OK` has accepted its copy command. -/
def Accepted (c : ActionCommand) (result : ExecutionResult Code) : Prop :=
  result = .ok ∧ IsCopyAction c.actionId

instance (c : ActionCommand) (result : ExecutionResult Code) : Decidable (Accepted c result) :=
  inferInstanceAs (Decidable (_ ∧ _))

/-- The copy commands that are accepted and the completions for them. What is reported on a command that
    is not accepted does not belong to the conversation. -/
def Entry.events : Entry → List (Event ActionCommand Completion)
  | .command c result reports =>
    if Accepted c result then .request c :: completions none reports else []
  | .continued result reports => completions (some result) reports

def conversation (log : List Entry) : List (Event ActionCommand Completion) :=
  log.flatMap Entry.events

/-- The completion is addressed to the requester of the command and names its action, and it is a success
    exactly if the engine returned `OPERATION_FINISHED`. -/
def Completes (c : ActionCommand) (completion : Completion) : Prop :=
  ∃ success result,
    completion.report = .finish success c.commandedBy (.action c.actionId) result ∧
    (success = true ↔ completion.ended = some .operationFinished)

/-- Each accepted command has been completed once, before the next one was accepted; the last one has
    not been completed exactly if its copy is running. -/
def Reported (s : System) : Prop :=
  ∃ pending, Serves Completes none (conversation s.log) pending ∧
    (pending.isSome ↔ s.handler.handlerState = .copying)

theorem conversation_snoc (log : List Entry) (entry : Entry) :
    conversation (log ++ [entry]) = conversation log ++ entry.events := by
  simp [conversation]

/-! ## The condition on a run -/

/-- While a copy is running, a command starts no operation, and one with the parameter of the iOBC's
    missing bootloader is sent by the requester of that copy. Otherwise it names no hamming code. -/
structure Admissible (board : Board) (h : SoftwareImageHandler) (c : ActionCommand) : Prop where
  image : h.handlerState = .copying →
    c.actionId = copyObswSdcToFlash ∨ c.actionId = copyObswSdcToSdc → ¬ NamesCardSlot c.data
  hamming : h.handlerState = .copying → c.actionId = copyHammingSdcToStorage →
    ∀ slot, NamesHammingSlot c.data slot →
      board = .iobc ∧ slot = .bootloader1 ∧ c.commandedBy = h.recipient
  idle : h.handlerState ≠ .copying → c.actionId = copyHammingSdcToStorage →
    ∀ slot, ¬ NamesHammingSlot c.data slot

/-- The condition on a message. -/
def ReceptionGood (board : Board) (reception : Reception) (s : System) : Prop :=
  ∀ c flagWrite, reception = .action c flagWrite → Admissible board s.handler c

/-- The condition on a pass: when the engine is called, it has finished or goes on. -/
def PassGood (board : Board) (hal : NorHal) (pass : Pass) (s : System) : Prop :=
  pass.countdownBusy = true → s.handler.handlerState = .copying →
    ∀ result engine devices,
      continueCurrentOperation board hal pass.call s.handler.imgCpHelper s.devices =
        some (result, engine, devices) →
      result = .operationFinished ∨ result = .taskPeriodOverSoon

/-- The condition on a cycle. -/
def CycleGood (board : Board) (hal : NorHal) (cycle : Cycle) (s : System) : Prop :=
  AlongRun (ReceptionGood board) (receive board) (received cycle.receptions) s ∧
    Along (PassGood board hal) (fun _ => true) (statePass board hal) cycle.passes
      (handleMessages board cycle.receptions s)

/-! ## A command -/

/-- What an admissible command does: it is not accepted and changes nothing, or it starts its copy on an
    idle handler. -/
inductive Effect (c : ActionCommand) (h : SoftwareImageHandler) (executed : Executed) : Prop where
  | kept (hnot : ¬ Accepted c executed.1) (hkept : executed.2.2 = h)
  | started (engine : ImageCopyingEngine) (hcopy : IsCopyAction c.actionId)
      (hidle : h.handlerState ≠ .copying) (haccept : executed = accept c [] engine h)

section Command

variable {board : Board} {c : ActionCommand} {h : SoftwareImageHandler} {code : Code}
  {reports : List Report}

theorem Effect.reject : Effect c h (reject code reports h) :=
  .kept (by simp [Accepted, Image.reject]) rfl

/-- A copy that starts reports nothing but its first step, if no copy is running. -/
theorem Effect.accept_of_not_busy {engine : ImageCopyingEngine} (hcopy : IsCopyAction c.actionId)
    (hidle : h.handlerState ≠ .copying) (hreports : reports = []) :
    Effect c h (accept c reports engine h) := by
  subst hreports
  exact .started engine hcopy hidle rfl

theorem busyReport_idle (hidle : h.handlerState ≠ .copying) : busyReport c h = [] := if_neg hidle

theorem misplacedBusyReport_idle (hidle : h.handlerState ≠ .copying) :
    misplacedBusyReport c h = [] := if_neg hidle

theorem handleCopyingSdcBlToFlash_effect (hcopy : IsCopyAction c.actionId) :
    Effect c h (handleCopyingSdcBlToFlash board c h) := by
  rcases handleCopyingSdcBlToFlash_cases with ⟨hidle, engine, heq⟩ | ⟨_, heq⟩ | ⟨_, heq⟩
  · rw [heq]
    exact .accept_of_not_busy hcopy hidle rfl
  · rw [heq]
    exact .reject
  · rw [heq]
    exact .reject

theorem handleCopyingSdcImgToFlash_effect (hcopy : IsCopyAction c.actionId)
    (hslot : h.handlerState = .copying → ¬ NamesCardSlot c.data) :
    Effect c h (handleCopyingSdcImgToFlash c h) := by
  rcases handleCopyingSdcImgToFlash_cases with ⟨hnamed, engine, heq⟩ | ⟨_, heq⟩
  · have hidle : h.handlerState ≠ .copying := fun hcopying => hslot hcopying hnamed
    rw [heq]
    exact .accept_of_not_busy hcopy hidle (busyReport_idle hidle)
  · rw [heq]
    exact .reject

theorem handleCopyingSdcToSdc_effect (hcopy : IsCopyAction c.actionId)
    (hslot : h.handlerState = .copying → ¬ NamesCardSlot c.data) :
    Effect c h (handleCopyingSdcToSdc c h) := by
  rcases handleCopyingSdcToSdc_cases with ⟨hnamed, engine, heq⟩ | ⟨_, heq⟩
  · have hidle : h.handlerState ≠ .copying := fun hcopying => hslot hcopying hnamed
    rw [heq]
    exact .accept_of_not_busy hcopy hidle (misplacedBusyReport_idle hidle)
  · rw [heq]
    exact .reject

/-- The copy of a hamming code is never started by an admissible command. -/
theorem handleCopyingHammingToStorage_effect (hadmissible : Admissible board h c)
    (haction : c.actionId = copyHammingSdcToStorage) :
    Effect c h (handleCopyingHammingToStorage board c h) := by
  by_cases hcopying : h.handlerState = .copying
  · rcases handleCopyingHammingToStorage_cases with
      ⟨slot, hnamed, hboard, _⟩ | ⟨hnamed, _, heq⟩ | ⟨_, heq⟩
    · obtain ⟨hiobc, hbootloader, _⟩ := hadmissible.hamming hcopying haction slot hnamed
      exact absurd ⟨hiobc, hbootloader⟩ hboard
    · -- the state is COPYING already and the recipient the same
      obtain ⟨_, _, hrequester⟩ := hadmissible.hamming hcopying haction _ hnamed
      rw [heq]
      refine .kept (by simp [Accepted]) ?_
      rw [hammingCopyRunning, hrequester, ← hcopying]
    · rw [heq]
      exact .reject
  · have hnone := hadmissible.idle hcopying haction
    rcases handleCopyingHammingToStorage_cases with
      ⟨slot, hnamed, _⟩ | ⟨hnamed, _⟩ | ⟨_, heq⟩
    · exact absurd hnamed (hnone slot)
    · exact absurd hnamed (hnone _)
    · rw [heq]
      exact .reject

/-- What `executeAction` does with an admissible command. -/
theorem executeAction_effect (flagWrite : WriteOutcome UInt8) (fram : Mem UInt8)
    (hadmissible : Admissible board h c) :
    Effect c h (executeAction board flagWrite c h fram).1 := by
  unfold executeAction
  split_ifs with hbootloader hflash hsdc hflag hhamming
  · exact handleCopyingSdcBlToFlash_effect (.inl hbootloader)
  · exact handleCopyingSdcImgToFlash_effect (.inr (.inl hflash))
      (fun hcopying => hadmissible.image hcopying (.inl hflash))
  · exact handleCopyingSdcToSdc_effect (.inr (.inr (.inl hsdc)))
      (fun hcopying => hadmissible.image hcopying (.inr hsdc))
  · -- the flag of the hamming check is not a copy command
    have hnot : ¬ IsCopyAction c.actionId := by
      rw [hflag]
      decide
    dsimp only
    split_ifs
    · exact .kept (fun haccepted => hnot haccepted.2) rfl
    · exact .kept (fun haccepted => hnot haccepted.2) rfl
  · exact handleCopyingHammingToStorage_effect hadmissible hhamming
  · exact .reject

end Command

/-! ## The conversation along a run -/

/-- The invariant: no command is open and no copy is running, or one is and the handler keeps its
    requester and action. -/
inductive InConversation (s : System) : Prop where
  | idle (hstate : s.handler.handlerState = .idle)
      (hserves : Serves Completes none (conversation s.log) none)
  | copying (c : ActionCommand) (hstate : s.handler.handlerState = .copying)
      (hrecipient : s.handler.recipient = c.commandedBy)
      (haction : s.handler.currentAction = c.actionId)
      (hserves : Serves Completes none (conversation s.log) (some c))

theorem InConversation.reported {s : System} (h : InConversation s) : Reported s := by
  cases h with
  | idle hstate hserves => exact ⟨none, hserves, by simp [hstate]⟩
  | copying c hstate _ _ hserves => exact ⟨some c, hserves, by simp [hstate]⟩

/-- What does not concern the conversation leaves it alone. -/
theorem InConversation.of_eq {s s' : System} (h : InConversation s) (hhandler : s'.handler = s.handler)
    (hlog : conversation s'.log = conversation s.log) : InConversation s' := by
  cases h with
  | idle hstate hserves => exact .idle (by rw [hhandler, hstate]) (by rw [hlog]; exact hserves)
  | copying c hstate hrecipient haction hserves =>
      exact .copying c (by rw [hhandler, hstate]) (by rw [hhandler, hrecipient])
        (by rw [hhandler, haction]) (by rw [hlog]; exact hserves)

section Run

variable {board : Board} {hal : NorHal} {s s' : System}

theorem receive_inConversation {reception : Reception} (h : InConversation s)
    (hgood : ReceptionGood board reception s) : InConversation (receive board reception s) := by
  cases reception with
  | empty => exact h
  | other => exact h
  | action c flagWrite =>
      have heffect := executeAction_effect flagWrite s.devices.fram (hgood c flagWrite rfl)
      rw [receive]
      rcases hexecuted : executeAction board flagWrite c s.handler s.devices.fram with
        ⟨⟨result, reports, handler⟩, fram⟩
      rw [hexecuted] at heffect
      cases heffect with
      | kept hnot hkept =>
          apply h.of_eq hkept
          rw [conversation_snoc, Entry.events, if_neg hnot, List.append_nil]
      | started engine hcopy hidle haccept =>
          obtain ⟨rfl, rfl, rfl⟩ := haccept
          cases h with
          | idle _ hserves =>
              refine .copying c rfl rfl rfl ?_
              rw [conversation_snoc, Entry.events, if_pos ⟨rfl, hcopy⟩]
              exact hserves.request_snoc
          | copying _ hstate _ _ _ => exact absurd hstate hidle

theorem handleMessages_inConversation {receptions : List Reception} (h : InConversation s)
    (hgood : AlongRun (ReceptionGood board) (receive board) (received receptions) s) :
    InConversation (handleMessages board receptions s) :=
  run_invariant (I := InConversation) (fun _ _ => receive_inConversation) _ _ h hgood

/-- A call of the engine while a copy is running ends it with a completion, or leaves it running. -/
theorem conclude_inConversation (engine : ImageCopyingEngine) (devices : Devices)
    {result : ReturnValue} {c : ActionCommand}
    (hcopying : s.handler.handlerState = .copying) (hrecipient : s.handler.recipient = c.commandedBy)
    (haction : s.handler.currentAction = c.actionId)
    (hserves : Serves Completes none (conversation s.log) (some c))
    (hresult : result = .operationFinished ∨ result = .taskPeriodOverSoon) :
    InConversation
      { handler := (concludeOperation result { s.handler with imgCpHelper := engine }).2
        devices := devices
        log := s.log ++ [.continued result
          (concludeOperation result { s.handler with imgCpHelper := engine }).1] } := by
  rcases hresult with rfl | rfl
  · -- the report is made of the recipient and the action that the handler keeps
    refine .idle rfl ?_
    rw [conversation_snoc]
    refine hserves.answer_snoc ⟨true, none, ?_, by simp⟩
    rw [← hrecipient, ← haction]
  · refine .copying c hcopying hrecipient haction ?_
    rw [conversation_snoc]
    exact hserves.append .nil

theorem statePass_inConversation {pass : Pass} (h : InConversation s)
    (hgood : PassGood board hal pass s) :
    (∀ s', statePass board hal pass s = some (.next s') → InConversation s') ∧
      ∀ r s', statePass board hal pass s = some (.ret r s') → InConversation s' := by
  unfold statePass
  by_cases hbusy : pass.countdownBusy = true
  · rw [if_neg (not_not.mpr hbusy)]
    cases h with
    | idle hstate hserves =>
        rw [hstate]
        refine ⟨fun _ hpass => (by cases hpass), fun _ s' hpass => ?_⟩
        cases hpass
        exact .idle hstate hserves
    | copying c hstate hrecipient haction hserves =>
        rw [hstate]
        dsimp only
        cases hcall : continueCurrentOperation board hal pass.call s.handler.imgCpHelper s.devices with
        | none => exact ⟨fun _ hpass => (by cases hpass), fun _ _ hpass => (by cases hpass)⟩
        | some answer =>
            obtain ⟨result, engine, devices⟩ := answer
            have hconcluded := conclude_inConversation engine devices hstate hrecipient haction
              hserves (hgood hbusy hstate result engine devices hcall)
            dsimp only
            by_cases hsoon : result = .taskPeriodOverSoon
            · rw [if_pos hsoon]
              refine ⟨fun _ hpass => (by cases hpass), fun _ _ hpass => ?_⟩
              cases hpass
              exact hconcluded
            · rw [if_neg hsoon]
              refine ⟨fun _ hpass => ?_, fun _ _ hpass => (by cases hpass)⟩
              cases hpass
              exact hconcluded
  · rw [if_pos hbusy]
    refine ⟨fun _ hpass => (by cases hpass), fun _ _ hpass => ?_⟩
    cases hpass
    exact h

theorem performStateMachine_inConversation {stateMachine : List Pass} (h : InConversation s)
    (hgood : Along (PassGood board hal) (fun _ => true) (statePass board hal) stateMachine s)
    (hrun : performStateMachine board hal stateMachine s = some s') : InConversation s' := by
  obtain ⟨hnext, hret⟩ := whileLoop_induct (I := InConversation) (Q := fun _ => InConversation)
    (fun _ => true) (statePass board hal)
    (fun _ _ s' hI _ (hg : PassGood board hal _ _) => (statePass_inConversation hI hg).1 s')
    (fun _ _ r s' hI _ hg => (statePass_inConversation hI hg).2 r s') stateMachine s h hgood
  unfold performStateMachine at hrun
  split at hrun
  next => cases hrun
  next s₁ hloop =>
    cases hrun
    exact (hnext _ hloop).1
  next r s₁ hloop =>
    cases hrun
    exact hret _ _ hloop

theorem performOperation_inConversation {cycle : Cycle} (h : InConversation s)
    (hgood : CycleGood board hal cycle s) (hrun : performOperation board hal cycle s = some (.next s')) :
    InConversation s' := by
  unfold performOperation at hrun
  obtain ⟨s₁, hmachine, heq⟩ := Option.map_eq_some_iff.mp hrun
  cases heq
  exact performStateMachine_inConversation (handleMessages_inConversation h hgood.1) hgood.2 hmachine

end Run

/-- **Completions of copy commands.** In a run whose commands are admissible and in which the engine
    returns nothing but `OPERATION_FINISHED` and `TASK_PERIOD_OVER_SOON`, each accepted command is
    completed once, when its operation ends, and as a success exactly if the engine has finished it. -/
theorem runCycles_reported (board : Board) (hal : NorHal) (devices : Devices) (cycles : List Cycle)
    (s : System)
    (hgood : Along (CycleGood board hal) (fun _ => true) (performOperation board hal) cycles
      (.initial devices))
    (hrun : runCycles board hal cycles (.initial devices) = some s) : Reported s :=
  (passes_induct (fun _ _ _ => performOperation_inConversation) cycles _ s (.idle rfl .nil) hgood
    hrun).reported

/-- When no copy is running, the i-th accepted command has been completed by the i-th completion, and
    there is no other completion. -/
theorem Reported.completions {s : System} (h : Reported s)
    (hidle : s.handler.handlerState ≠ .copying) :
    List.Forall₂ Completes (requests (conversation s.log)) (answers (conversation s.log)) := by
  obtain ⟨pending, hserves, hpending⟩ := h
  obtain rfl : pending = none := by
    cases pending with
    | none => rfl
    | some c => exact absurd (hpending.mp rfl) hidle
  obtain ⟨served, hrequests, hserved⟩ := hserves.forall₂
  obtain rfl : requests (conversation s.log) = served := by simpa using hrequests
  exact hserved

/-! ## Two runs -/

/-- A board with an empty flash memory. -/
def boardWith (card : Card) : Devices where
  card := card
  fram := fun _ => 0
  norFlash := fun _ => 0xff
  norCommands := []
  nandFlash := fun _ _ => erasedPage
  nandCommands := []
  nandConfigured := false

/-- A call of a copy from slot to slot that copies one byte and runs out of time behind it. -/
def slotCall : OperationCall where
  nor := ⟨0, [], false, false, ImageCopyingEngine.quietFs, []⟩
  sdc := oneByteCall 1
  hamming := ⟨false, .sdCard0, ImageCopyingEngine.quietFs, .done, []⟩
  configureNandFails := false
  nand := ⟨false, 0, .done, [], false, ImageCopyingEngine.quietFs, []⟩

/-- A cycle with a message and time for two passes. -/
def slotCycle (reception : Reception) : Cycle where
  receptions := [reception]
  passes := [⟨true, slotCall⟩, ⟨true, slotCall⟩]

/-- A command to copy slot 0 over slot 1. -/
def slotCommand (commandedBy : MessageQueueId) : ActionCommand := ⟨copyObswSdcToSdc, commandedBy, [0]⟩

/-- Two commands to copy an image of two bytes, each of which takes two cycles, and one for the bootloader in between
    that is turned away. -/
def slotCycles : List Cycle :=
  [slotCycle (.action (slotCommand 1) .done), slotCycle (.action ⟨copyBootloaderSdcToFlash, 2, [0]⟩ .done),
    slotCycle (.action (slotCommand 3) .done), slotCycle .empty]

/-- A command that comes when no copy is running and is not for a hamming code is admissible. -/
theorem admissible_idle {board : Board} {h : SoftwareImageHandler} {c : ActionCommand}
    (hidle : h.handlerState ≠ .copying) (haction : c.actionId ≠ copyHammingSdcToStorage) : Admissible board h c :=
  ⟨fun hcopying => absurd hcopying hidle, fun hcopying => absurd hcopying hidle, fun _ h => absurd h haction⟩

/-- A cycle of a slot copy is good when its message is admissible and the first call of the engine in it
    finishes the copy or runs out of time: a second pass would find the handler idle. -/
theorem slotCycle_good {board : Board} {hal : NorHal} {reception : Reception} {s : System}
    {result : ReturnValue} {engine : ImageCopyingEngine} {devices : Devices}
    (hreception : ReceptionGood board reception s)
    (hcall : continueCurrentOperation board hal slotCall
      (handleMessages board [reception] s).handler.imgCpHelper (handleMessages board [reception] s).devices =
        some (result, engine, devices))
    (hresult : result = .operationFinished ∨ result = .taskPeriodOverSoon) :
    CycleGood board hal (slotCycle reception) s := by
  constructor
  · cases reception <;> simp [slotCycle, received, maxMessagesHandled, AlongRun, hreception]
  · refine fun _ => ⟨fun _ _ result' engine' devices' hcall' => ?_, fun s' hpass _ => ?_⟩
    · obtain ⟨rfl, -, -⟩ := (Prod.mk.injEq _ _ _ _).mp (Option.some.inj (hcall.symm.trans hcall'))
      exact hresult
    · refine ⟨fun _ hcopying => ?_, fun _ _ => trivial⟩
      simp only [statePass, slotCycle, not_true_eq_false, if_false] at hpass
      split at hpass
      next => cases hpass
      next =>
        rw [hcall] at hpass
        rcases hresult with rfl | rfl
        · cases hpass
          cases hcopying
        · cases hpass
      next hscrubbing =>
        cases hpass
        cases hscrubbing.symm.trans hcopying

/-- Both copies are reported once, as successes. -/
theorem slot_copies_reported :
    ∃ s, runCycles .iobc overwritingNorHal slotCycles (.initial (boardWith twoByteImage)) = some s ∧
      s.log = [.command (slotCommand 1) .ok [.step 1 1 (.action copyObswSdcToSdc) none],
        .continued .taskPeriodOverSoon [],
        .command ⟨copyBootloaderSdcToFlash, 2, [0]⟩ (.failed .isBusy) [],
        .continued .operationFinished [.finish true 1 (.action copyObswSdcToSdc) none],
        .command (slotCommand 3) .ok [.step 1 3 (.action copyObswSdcToSdc) none],
        .continued .taskPeriodOverSoon [],
        .continued .operationFinished [.finish true 3 (.action copyObswSdcToSdc) none]] ∧
      Reported s := by
  refine ⟨_, rfl, rfl, runCycles_reported .iobc overwritingNorHal (boardWith twoByteImage) slotCycles _ ?_ rfl⟩
  -- the bootloader command is the only one that finds a copy running
  refine fun _ => ⟨slotCycle_good ?_ rfl (.inr rfl), fun s hcycle => ?_⟩
  · rintro c flagWrite ⟨⟩
    exact admissible_idle (by decide) (by decide)
  cases hcycle
  refine fun _ => ⟨slotCycle_good ?_ rfl (.inl rfl), fun s hcycle => ?_⟩
  · rintro c flagWrite ⟨⟩
    exact ⟨fun _ haction => absurd haction (by decide), fun _ haction => absurd haction (by decide),
      fun _ haction => absurd haction (by decide)⟩
  cases hcycle
  refine fun _ => ⟨slotCycle_good ?_ rfl (.inr rfl), fun s hcycle => ?_⟩
  · rintro c flagWrite ⟨⟩
    exact admissible_idle nofun (by decide)
  cases hcycle
  exact fun _ => ⟨slotCycle_good nofun rfl (.inl rfl), fun _ _ => trivial⟩

/-- **A copy that has failed is reported as a success.** There is no image in slot 0; the engine returns
    `F_ERR_NOTFOUND`, which the state machine does not compare with. -/
theorem missing_image_reported_as_success :
    ∃ s, runCycles .iobc overwritingNorHal [slotCycle (.action (slotCommand 1) .done)]
        (.initial (boardWith fun _ => none)) = some s ∧
      s.log = [.command (slotCommand 1) .ok [.step 1 1 (.action copyObswSdcToSdc) none],
        .continued .fErrNotfound [.finish true 1 (.action copyObswSdcToSdc) none]] ∧
      ¬ Reported s := by
  refine ⟨_, rfl, rfl, ?_⟩
  rintro ⟨pending, hserves, _⟩
  obtain ⟨_, hserves⟩ := hserves.none_of_request
  obtain ⟨c, _, ⟨success, result, hreport, hfinished⟩, _⟩ := hserves.some_of_answer
  obtain rfl : success = true := (ActionReport.finish.inj hreport).1.symm
  simp at hfinished

end Image
end Obsw
