import Obsw.ActionHelper
import Obsw.Engine.Continue
import Obsw.Fram.Accessors

/-!
# `Image.Handler` — the commands of the software image handler

`SoftwareImageHandler::executeAction` and the four functions behind its copy commands. Each of them is
meant to turn a command away while a copy is running. The bootloader command does; two others report
that they are busy and go on, and the copy from slot to slot reports it with its arguments one place
off. A valid command that goes on starts its own operation on the engine of the running one.
-/

namespace Obsw
namespace Image

open Engine Fram Device Memory

/-! ## Commands and codes -/

def enableHammingCodeCheckForCopying : ActionId := 0
def copyObswSdcToFlash : ActionId := 3
def copyObswSdcToSdc : ActionId := 5
def copyHammingSdcToStorage : ActionId := 7
def copyBootloaderSdcToFlash : ActionId := 16

/-- The return codes of the handler beside `RETURN_OK`: `IS_BUSY` of the framework's action interface,
    `BUSY` of the image handler and the others. -/
inductive Code where
  | returnFailed
  | isBusy
  | busy
  | invalidParameters
  | invalidActionId
  deriving DecidableEq, Repr

abbrev Report := ActionReport Code

/-- The codes that say the handler is busy. -/
def Code.IsBusy (code : Code) : Prop := code = .isBusy ∨ code = .busy

instance (code : Code) : Decidable code.IsBusy := inferInstanceAs (Decidable (_ ∨ _))

/-! ## `SoftwareImageHandler` -/

inductive HandlerState where
  | idle
  | copying
  | scrubbing
  deriving DecidableEq, Repr

/-- `currentAction` is `0xffffffff` when no action is running. -/
def noAction : ActionId := 0xffffffff

/-- The members of the handler. -/
structure SoftwareImageHandler where
  handlerState : HandlerState
  recipient : MessageQueueId
  currentAction : ActionId
  imgCpHelper : ImageCopyingEngine

/-- The handler as it is constructed. -/
def SoftwareImageHandler.initial : SoftwareImageHandler :=
  ⟨.idle, noQueue, noAction, .initial⟩

/-- What a command function returns, the reports it sends, and the handler behind it. -/
abbrev Executed := ExecutionResult Code × List Report × SoftwareImageHandler

/-- A command that is turned away: nothing is done beyond the reports made so far. -/
def reject (code : Code) (reports : List Report) (h : SoftwareImageHandler) : Executed :=
  (.failed code, reports, h)

/-- The end of a command function that has started an operation. -/
def accept (c : ActionCommand) (reports : List Report) (engine : ImageCopyingEngine)
    (h : SoftwareImageHandler) : Executed :=
  (.ok, reports ++ [.step 1 c.commandedBy (.action c.actionId) none],
    { h with
      currentAction := c.actionId
      recipient := c.commandedBy
      handlerState := .copying
      imgCpHelper := engine })

/-- `handleCopyingSdcBlToFlash`. -/
def handleCopyingSdcBlToFlash (board : Board) (c : ActionCommand) (h : SoftwareImageHandler) :
    Executed :=
  if h.handlerState = .copying then reject .isBusy [] h
  else
    match board, c.data with
    | .iobc, [fromFram] =>
      accept c [] (startBoardBootloaderToFlashOperation .iobc h.imgCpHelper .bootloader0
        (fromFram ≠ 0)).2 h
    | .iobc, _ => reject .invalidParameters [] h
    | .at91sam9g20Ek, parameter :: _ =>
      if parameter = 0 then
        accept c [] (startBoardBootloaderToFlashOperation .at91sam9g20Ek h.imgCpHelper .bootloader0
          false).2 h
      else if parameter = 1 then
        accept c [] (startBoardBootloaderToFlashOperation .at91sam9g20Ek h.imgCpHelper .bootloader1
          false).2 h
      else reject .invalidParameters [] h
    | .at91sam9g20Ek, [] => reject .invalidParameters [] h

/-- The report of `handleCopyingSdcImgToFlash` and `handleCopyingHammingToStorage` while a copy is
    running. Both go on. -/
def busyReport (c : ActionCommand) (h : SoftwareImageHandler) : List Report :=
  if h.handlerState = .copying then
    [.finish false c.commandedBy (.action c.actionId) (some .busy)]
  else []

/-- `handleCopyingSdcImgToFlash`. -/
def handleCopyingSdcImgToFlash (c : ActionCommand) (h : SoftwareImageHandler) : Executed :=
  let reports := busyReport c h
  match c.data with
  | [targetBinary] =>
    if targetBinary = 0 then
      accept c reports (h.imgCpHelper.startSdcToFlashOperation .sdcSlot0).2 h
    else if targetBinary = 1 then
      accept c reports (h.imgCpHelper.startSdcToFlashOperation .sdcSlot1).2 h
    else reject .invalidParameters reports h
  | _ => reject .invalidParameters reports h

/-- The slot a hamming code belongs to, by the raw parameter. -/
def respectiveSlot (rawParam : UInt8) : Option ImageSlot :=
  if rawParam = 0 then some .flash
  else if rawParam = 1 then some .sdcSlot0
  else if rawParam = 2 then some .sdcSlot1
  else if rawParam = 3 then some .bootloader0
  else if rawParam = 4 then some .bootloader1
  else none

/-- `handleCopyingHammingToStorage`. The current action is not set, and the result of the start function
    is reported and returned behind the change of the state. -/
def handleCopyingHammingToStorage (board : Board) (c : ActionCommand) (h : SoftwareImageHandler) :
    Executed :=
  -- `finish(false, BUSY)` does not end the function
  let reports := busyReport c h
  match c.data with
  | [rawParam] =>
    match respectiveSlot rawParam with
    | none => reject .invalidParameters reports h
    | some slot =>
      let started := startBoardHammingCodeToFramOperation board h.imgCpHelper slot
      let h := { h with
        handlerState := .copying
        recipient := c.commandedBy
        imgCpHelper := started.2 }
      if started.1 = .returnOk then
        (.ok, reports ++ [.step 1 c.commandedBy (.action c.actionId) none], h)
      else
        (.failed .returnFailed,
          reports ++ [.step 1 c.commandedBy (.action c.actionId) (some .returnFailed)], h)
  | _ => reject .invalidParameters reports h

/-- The report of `handleCopyingSdcToSdc` while a copy is running. `finish` is called without its first
    argument: the requester is taken for the success flag, the action for the requester and the code for
    the action. -/
def misplacedBusyReport (c : ActionCommand) (h : SoftwareImageHandler) : List Report :=
  if h.handlerState = .copying then
    [.finish (decide (c.commandedBy ≠ 0)) c.actionId (.code .busy) none]
  else []

/-- `handleCopyingSdcToSdc`. -/
def handleCopyingSdcToSdc (c : ActionCommand) (h : SoftwareImageHandler) : Executed :=
  let reports := misplacedBusyReport c h
  match c.data with
  | [targetBinary] =>
    if targetBinary = 0 then
      accept c reports (h.imgCpHelper.startSdcToSdcOperation .sdcSlot0).2 h
    else if targetBinary = 1 then
      accept c reports (h.imgCpHelper.startSdcToSdcOperation .sdcSlot1).2 h
    else reject .invalidParameters reports h
  | _ => reject .invalidParameters reports h

/-- `executeAction`. `flagWrite` is the answer of the FRAM to `fram_set_ham_check_flag`. -/
def executeAction (board : Board) (flagWrite : WriteOutcome UInt8) (c : ActionCommand)
    (h : SoftwareImageHandler) (fram : Mem UInt8) : Executed × Mem UInt8 :=
  if c.actionId = copyBootloaderSdcToFlash then (handleCopyingSdcBlToFlash board c h, fram)
  else if c.actionId = copyObswSdcToFlash then (handleCopyingSdcImgToFlash c h, fram)
  else if c.actionId = copyObswSdcToSdc then (handleCopyingSdcToSdc c h, fram)
  else if c.actionId = enableHammingCodeCheckForCopying then
    let written := framSetHamCheckFlag flagWrite fram
    (if written.1 ≠ 0 then (.failed .returnFailed, [], h) else (.ok, [], h), written.2)
  else if c.actionId = copyHammingSdcToStorage then (handleCopyingHammingToStorage board c h, fram)
  else ((.failed .invalidActionId, [], h), fram)

/-- The copy commands of the action switch. -/
def IsCopyAction (actionId : ActionId) : Prop :=
  actionId = copyBootloaderSdcToFlash ∨ actionId = copyObswSdcToFlash ∨
    actionId = copyObswSdcToSdc ∨ actionId = copyHammingSdcToStorage

instance (actionId : ActionId) : Decidable (IsCopyAction actionId) :=
  inferInstanceAs (Decidable (_ ∨ _))

/-! ## What a copy command does -/

/-- The parameter names one of the two slots of the card. -/
def NamesCardSlot (data : List UInt8) : Prop := data = [0] ∨ data = [1]

/-- The parameter names a slot with a hamming code. -/
def NamesHammingSlot (data : List UInt8) (slot : ImageSlot) : Prop :=
  ∃ rawParam, data = [rawParam] ∧ respectiveSlot rawParam = some slot

/-- The handler while the copy of a hamming code is running, which does not set the current action. -/
def hammingCopyRunning (c : ActionCommand) (engine : ImageCopyingEngine) (h : SoftwareImageHandler) :
    SoftwareImageHandler :=
  { h with handlerState := .copying, recipient := c.commandedBy, imgCpHelper := engine }

section Cases

variable {board : Board} {c : ActionCommand} {h : SoftwareImageHandler}

/-- The copy of a bootloader starts when no copy is running, or its command is rejected. -/
theorem handleCopyingSdcBlToFlash_cases :
    (h.handlerState ≠ .copying ∧ ∃ engine, handleCopyingSdcBlToFlash board c h = accept c [] engine h) ∨
      (h.handlerState ≠ .copying ∧
        handleCopyingSdcBlToFlash board c h = reject .invalidParameters [] h) ∨
      h.handlerState = .copying ∧ handleCopyingSdcBlToFlash board c h = reject .isBusy [] h := by
  unfold handleCopyingSdcBlToFlash
  by_cases hcopying : h.handlerState = .copying
  · exact .inr (.inr ⟨hcopying, if_pos hcopying⟩)
  rw [if_neg hcopying]
  split
  · exact .inl ⟨hcopying, _, rfl⟩
  · exact .inr (.inl ⟨hcopying, rfl⟩)
  · split_ifs
    · exact .inl ⟨hcopying, _, rfl⟩
    · exact .inl ⟨hcopying, _, rfl⟩
    · exact .inr (.inl ⟨hcopying, rfl⟩)
  · exact .inr (.inl ⟨hcopying, rfl⟩)

theorem not_namesCardSlot {data : List UInt8} {targetBinary : UInt8} (hdata : data = [targetBinary])
    (h0 : targetBinary ≠ 0) (h1 : targetBinary ≠ 1) : ¬ NamesCardSlot data := by
  rintro (hslot | hslot)
  · exact h0 (List.cons.inj (hdata.symm.trans hslot)).1
  · exact h1 (List.cons.inj (hdata.symm.trans hslot)).1

/-- The copy of an image to the flash memory starts if a slot is named. -/
theorem handleCopyingSdcImgToFlash_cases :
    (NamesCardSlot c.data ∧
        ∃ engine, handleCopyingSdcImgToFlash c h = accept c (busyReport c h) engine h) ∨
      ¬ NamesCardSlot c.data ∧
        handleCopyingSdcImgToFlash c h = reject .invalidParameters (busyReport c h) h := by
  unfold handleCopyingSdcImgToFlash
  split
  next targetBinary hdata =>
    split_ifs with h0 h1
    · exact .inl ⟨.inl (by rw [hdata, h0]), _, rfl⟩
    · exact .inl ⟨.inr (by rw [hdata, h1]), _, rfl⟩
    · exact .inr ⟨not_namesCardSlot hdata h0 h1, rfl⟩
  next hdata => exact .inr ⟨not_or.mpr ⟨hdata 0, hdata 1⟩, rfl⟩

/-- The copy of an image to the other slot starts if a slot is named. -/
theorem handleCopyingSdcToSdc_cases :
    (NamesCardSlot c.data ∧
        ∃ engine, handleCopyingSdcToSdc c h = accept c (misplacedBusyReport c h) engine h) ∨
      ¬ NamesCardSlot c.data ∧
        handleCopyingSdcToSdc c h = reject .invalidParameters (misplacedBusyReport c h) h := by
  unfold handleCopyingSdcToSdc
  split
  next targetBinary hdata =>
    split_ifs with h0 h1
    · exact .inl ⟨.inl (by rw [hdata, h0]), _, rfl⟩
    · exact .inl ⟨.inr (by rw [hdata, h1]), _, rfl⟩
    · exact .inr ⟨not_namesCardSlot hdata h0 h1, rfl⟩
  next hdata => exact .inr ⟨not_or.mpr ⟨hdata 0, hdata 1⟩, rfl⟩

theorem respectiveSlot_ne_none {rawParam : UInt8} {slot : ImageSlot}
    (h : respectiveSlot rawParam = some slot) : slot ≠ .none := by
  rintro rfl
  unfold respectiveSlot at h
  split_ifs at h <;> cases h

/-- The copy of a hamming code starts if the board has one for the slot named; for the second
    bootloader of the iOBC, the handler starts copying and the engine does not. -/
theorem handleCopyingHammingToStorage_cases :
    (∃ slot, NamesHammingSlot c.data slot ∧ ¬ (board = .iobc ∧ slot = .bootloader1) ∧
        ∃ engine, handleCopyingHammingToStorage board c h =
          (.ok, busyReport c h ++ [.step 1 c.commandedBy (.action c.actionId) none],
            hammingCopyRunning c engine h)) ∨
      (NamesHammingSlot c.data .bootloader1 ∧ board = .iobc ∧
        handleCopyingHammingToStorage board c h =
          (.failed .returnFailed,
            busyReport c h ++ [.step 1 c.commandedBy (.action c.actionId) (some .returnFailed)],
            hammingCopyRunning c h.imgCpHelper h)) ∨
      (∀ slot, ¬ NamesHammingSlot c.data slot) ∧
        handleCopyingHammingToStorage board c h = reject .invalidParameters (busyReport c h) h := by
  unfold handleCopyingHammingToStorage
  split
  next rawParam hdata =>
    split
    next hslot =>
      refine .inr (.inr ⟨?_, rfl⟩)
      rintro slot ⟨rawParam', hdata', hslot'⟩
      obtain rfl := (List.cons.inj (hdata.symm.trans hdata')).1
      simp [hslot] at hslot'
    next slot hslot =>
      have hok := startBoardHammingCodeToFramOperation_ok_iff board h.imgCpHelper
        (respectiveSlot_ne_none hslot)
      dsimp only
      -- the handler is in COPYING whatever the start function returns
      by_cases hstarted : (startBoardHammingCodeToFramOperation board h.imgCpHelper slot).1 = .returnOk
      · rw [if_pos hstarted]
        exact .inl ⟨slot, ⟨rawParam, hdata, hslot⟩, hok.mp hstarted, _, rfl⟩
      · rw [if_neg hstarted, startBoardHammingCodeToFramOperation_engine hstarted]
        obtain ⟨rfl, rfl⟩ := not_not.mp (mt hok.mpr hstarted)
        exact .inr (.inl ⟨⟨rawParam, hdata, hslot⟩, rfl, rfl⟩)
  next hdata =>
    refine .inr (.inr ⟨?_, rfl⟩)
    rintro slot ⟨rawParam, hdata', _⟩
    exact hdata rawParam hdata'

end Cases

/-! ## A command while a copy is running -/

/-- The reports a command leads to, the action helper's own one last. -/
def reportsOf (c : ActionCommand) (executed : Executed) : List Report :=
  executed.2.1 ++ [reportExecution c executed.1]

/-- The report tells the requester that the command was taken up or has succeeded. -/
def SaysAccepted (c : ActionCommand) (report : Report) : Prop :=
  report = .start c.commandedBy (.action c.actionId) ∨
    (∃ number, report = .step number c.commandedBy (.action c.actionId) none) ∨
    ∃ result, report = .finish true c.commandedBy (.action c.actionId) result

/-- The command is rejected with a busy code, nobody is told that it was taken up, and the handler is the same: its
    state, the requester and the action of the running copy, and the engine. -/
structure TurnedAway (c : ActionCommand) (h : SoftwareImageHandler) (executed : Executed) : Prop where
  busy : ∃ code : Code, code.IsBusy ∧ executed.1 = .failed code
  notAccepted : ∀ report ∈ reportsOf c executed, ¬ SaysAccepted c report
  handler : executed.2.2 = h

section Busy

variable {board : Board} {c : ActionCommand} {h : SoftwareImageHandler}

theorem handleCopyingSdcBlToFlash_turnedAway (hcopying : h.handlerState = .copying) :
    TurnedAway c h (handleCopyingSdcBlToFlash board c h) := by
  rcases handleCopyingSdcBlToFlash_cases with
    ⟨hidle, _⟩ | ⟨hidle, _⟩ | ⟨_, hreject⟩
  · exact absurd hcopying hidle
  · exact absurd hcopying hidle
  rw [hreject]
  refine ⟨⟨.isBusy, .inl rfl, rfl⟩, fun report hreport => ?_, rfl⟩
  obtain rfl := List.mem_singleton.mp hreport
  simp [reject, reportExecution, SaysAccepted]

/-- A command that is answered without a busy code is not turned away. -/
theorem not_turnedAway_of_result {executed : Executed}
    (hresult : ∀ code : Code, code.IsBusy → executed.1 ≠ .failed code) : ¬ TurnedAway c h executed :=
  fun ⟨⟨code, hcode, heq⟩, _, _⟩ => hresult code hcode heq

theorem not_busy_ok (code : Code) (_ : code.IsBusy) : (.ok : ExecutionResult Code) ≠ .failed code := by
  intro heq
  cases heq

theorem not_busy_failed {code : Code} (hcode : ¬ code.IsBusy) (code' : Code) (hbusy : code'.IsBusy) :
    (.failed code : ExecutionResult Code) ≠ .failed code' := by
  rintro heq
  cases heq
  exact hcode hbusy

theorem handleCopyingSdcImgToFlash_not_turnedAway : ¬ TurnedAway c h (handleCopyingSdcImgToFlash c h) := by
  rcases handleCopyingSdcImgToFlash_cases with ⟨_, engine, heq⟩ | ⟨_, heq⟩
  · rw [heq]
    exact not_turnedAway_of_result not_busy_ok
  · rw [heq]
    exact not_turnedAway_of_result (not_busy_failed (by decide))

/-- On the iOBC the command for the second bootloader fails, but the running copy is reported to its sender. -/
theorem handleCopyingHammingToStorage_not_turnedAway :
    ¬ TurnedAway c h (handleCopyingHammingToStorage board c h) := by
  rcases handleCopyingHammingToStorage_cases with ⟨_, _, _, engine, heq⟩ | ⟨_, _, heq⟩ | ⟨_, heq⟩
  · rw [heq]
    exact not_turnedAway_of_result not_busy_ok
  · rw [heq]
    exact not_turnedAway_of_result (not_busy_failed (by decide))
  · rw [heq]
    exact not_turnedAway_of_result (not_busy_failed (by decide))

theorem handleCopyingSdcToSdc_not_turnedAway : ¬ TurnedAway c h (handleCopyingSdcToSdc c h) := by
  rcases handleCopyingSdcToSdc_cases with ⟨_, engine, heq⟩ | ⟨_, heq⟩
  · rw [heq]
    exact not_turnedAway_of_result not_busy_ok
  · rw [heq]
    exact not_turnedAway_of_result (not_busy_failed (by decide))

end Busy

/-- **Commands while a copy is running.** A copy command is rejected with a busy code, with the handler and the engine
    as they were, exactly if it is the bootloader command; the others report that the handler is busy and go on. -/
theorem executeAction_turnedAway_iff (board : Board) (flagWrite : WriteOutcome UInt8)
    (c : ActionCommand) (h : SoftwareImageHandler) (fram : Mem UInt8)
    (hcopying : h.handlerState = .copying) (hcopy : IsCopyAction c.actionId) :
    TurnedAway c h (executeAction board flagWrite c h fram).1 ↔ c.actionId = copyBootloaderSdcToFlash := by
  unfold executeAction
  rcases hcopy with haction | haction | haction | haction
  · simp [haction, handleCopyingSdcBlToFlash_turnedAway hcopying]
  · simp [haction, handleCopyingSdcImgToFlash_not_turnedAway, copyObswSdcToFlash, copyBootloaderSdcToFlash]
  · simp [haction, handleCopyingSdcToSdc_not_turnedAway, copyObswSdcToFlash, copyBootloaderSdcToFlash,
      copyObswSdcToSdc]
  · simp [haction, handleCopyingHammingToStorage_not_turnedAway, copyObswSdcToFlash, copyBootloaderSdcToFlash,
      copyHammingSdcToStorage, copyObswSdcToSdc, enableHammingCodeCheckForCopying]

/-- The handler behind a command to copy slot 0 over slot 1. -/
def slotCopyRunning : SoftwareImageHandler :=
  (handleCopyingSdcToSdc ⟨copyObswSdcToSdc, 1, [0]⟩ .initial).2.2

/-- A command to copy slot 1 to the flash memory, while slot 0 is being copied over slot 1, is accepted,
    and the copy that was running goes on with another source and target. -/
theorem flash_copy_retargets_slot_copy :
    slotCopyRunning.handlerState = .copying ∧ IsCopyAction copyObswSdcToFlash ∧
    ¬ TurnedAway ⟨copyObswSdcToFlash, 2, [1]⟩ slotCopyRunning
        (executeAction .iobc .done ⟨copyObswSdcToFlash, 2, [1]⟩ slotCopyRunning (fun _ => 0)).1 ∧
    (slotCopyRunning.imgCpHelper.imageHandlerState, slotCopyRunning.imgCpHelper.sourceSlot,
      slotCopyRunning.imgCpHelper.targetSlot) = (.copyImgSdcToSdc, .sdcSlot0, .sdcSlot1) ∧
    let engine := (executeAction .iobc .done ⟨copyObswSdcToFlash, 2, [1]⟩ slotCopyRunning
      (fun _ => 0)).1.2.2.imgCpHelper
    (engine.imageHandlerState, engine.sourceSlot, engine.targetSlot) =
      (.copyImgSdcToFlash, .sdcSlot1, .flash) :=
  ⟨rfl, .inr (.inl rfl), not_turnedAway_of_result not_busy_ok, rfl, rfl⟩

/-- The bootloader command is the one that is always turned away. -/
theorem bootloader_copy_turnedAway :
    slotCopyRunning.handlerState = .copying ∧ IsCopyAction copyBootloaderSdcToFlash ∧
    TurnedAway ⟨copyBootloaderSdcToFlash, 2, [0]⟩ slotCopyRunning
      (executeAction .iobc .done ⟨copyBootloaderSdcToFlash, 2, [0]⟩ slotCopyRunning (fun _ => 0)).1 :=
  ⟨rfl, .inl rfl, (executeAction_turnedAway_iff .iobc .done ⟨copyBootloaderSdcToFlash, 2, [0]⟩
    slotCopyRunning (fun _ => 0) rfl (.inl rfl)).mpr rfl⟩

end Image
end Obsw
