import Obsw.Engine.HammingCopy
import Obsw.Engine.NandCopy
import Obsw.Engine.NorCopy
import Obsw.Engine.SdcCopy

/-!
# `Engine.Continue` — starting and continuing an operation on either board

`continueCurrentOperation` of `ImageCopyingiOBC.cpp` and `ImageCopyingAT91.cpp`, which hands the call to
the operation that was started, and the start functions the boards do not share. Each operation works
on the memories it knows (`NorState`, `NandState`, `SdcState`, `HammingState`); here they are the parts
of one board.
-/

namespace Obsw
namespace Engine

open Memory Fram ImageCopyingEngine

/-- What the operations read and write beside the members of the engine. `nandConfigured` is a member of
    the engine on the AT91 board. -/
structure Devices where
  card : Card
  fram : Mem UInt8
  norFlash : Mem UInt8
  norCommands : List FlashCommand
  nandFlash : NandFlash
  nandCommands : List NandCommand
  nandConfigured : Bool

/-- What a call of `continueCurrentOperation` meets, for each of the operations, and whether
    `configureNand` fails. -/
structure OperationCall where
  nor : NorCall
  sdc : SdcCall
  hamming : HammingCall
  configureNandFails : Bool
  nand : NandCall

/-! ## Start functions -/

/-- `startBootloaderToFlashOperation` of the iOBC. -/
def startIobcBootloaderToFlashOperation (e : ImageCopyingEngine) (fromFram : Bool) :
    ReturnValue × ImageCopyingEngine :=
  (.returnOk, { e with
    sourceSlot := .bootloader0
    imageHandlerState := if fromFram then .copyBlFramToFlash else .copyBlSdcToFlash })

/-- `startBootloaderToFlashOperation` of a board. -/
def startBoardBootloaderToFlashOperation (board : Board) (e : ImageCopyingEngine)
    (bootloaderType : ImageSlot) (fromFram : Bool) : ReturnValue × ImageCopyingEngine :=
  match board with
  | .iobc => startIobcBootloaderToFlashOperation e fromFram
  | .at91sam9g20Ek => startAt91BootloaderToFlashOperation e bootloaderType fromFram

/-- `startHammingCodeToFramOperation` of a board. The AT91 board has two bootloaders. -/
def startBoardHammingCodeToFramOperation (board : Board) (e : ImageCopyingEngine)
    (respectiveSlot : ImageSlot) : ReturnValue × ImageCopyingEngine :=
  match board with
  | .iobc => startHammingCodeToFramOperation e respectiveSlot
  | .at91sam9g20Ek =>
    if respectiveSlot = .none then (.returnFailed, e)
    else (.returnOk, { e with
      hammingCode := true
      sourceSlot := respectiveSlot
      imageHandlerState :=
        if respectiveSlot = .bootloader0 then .copyBlHammingSdcToFram
        else .copyImgHammingSdcToFram })

/-- The engine of the iOBC refuses the hamming code of a second bootloader. -/
theorem startBoardHammingCodeToFramOperation_ok_iff (board : Board) (e : ImageCopyingEngine)
    {slot : ImageSlot} (hslot : slot ≠ .none) :
    (startBoardHammingCodeToFramOperation board e slot).1 = .returnOk ↔
      ¬ (board = .iobc ∧ slot = .bootloader1) := by
  unfold startBoardHammingCodeToFramOperation startHammingCodeToFramOperation
  cases board with
  | iobc =>
      by_cases hbootloader : slot = .bootloader1
      · simp [hbootloader]
      · simp [hslot, hbootloader]
  | at91sam9g20Ek => simp [hslot]

/-- A start function that fails leaves the engine alone. -/
theorem startBoardHammingCodeToFramOperation_engine {board : Board} {e : ImageCopyingEngine}
    {slot : ImageSlot}
    (hfailed : (startBoardHammingCodeToFramOperation board e slot).1 ≠ .returnOk) :
    (startBoardHammingCodeToFramOperation board e slot).2 = e := by
  unfold startBoardHammingCodeToFramOperation startHammingCodeToFramOperation at hfailed ⊢
  cases board with
  | iobc =>
      by_cases hslot : slot = .none ∨ slot = .bootloader1
      · simp [hslot]
      · simp [hslot] at hfailed
  | at91sam9g20Ek =>
      by_cases hslot : slot = .none
      · simp [hslot]
      · simp [hslot] at hfailed

/-! ## The operations on a board -/

/-- `copySdCardImageToNorFlash` on the board's memories. -/
def continueNorCopy (hal : NorHal) (call : OperationCall) (e : ImageCopyingEngine) (d : Devices) :
    Option (ReturnValue × ImageCopyingEngine × Devices) :=
  (copySdCardImageToNorFlash hal d.card call.nor ⟨e, d.norFlash, d.fram, d.norCommands⟩).map
    fun (r, s) =>
      (r, s.engine, { d with norFlash := s.flash, fram := s.fram, norCommands := s.commands })

/-- `copySdcImgToSdc` on the board's memories. -/
def continueSdcCopy (board : Board) (call : OperationCall) (e : ImageCopyingEngine) (d : Devices) :
    Option (ReturnValue × ImageCopyingEngine × Devices) :=
  (copySdcImgToSdc board call.sdc ⟨e, d.card⟩).map
    fun (r, s) => (r, s.engine, { d with card := s.card })

/-- `copyImgHammingSdcToFram` on the board's memories. -/
def continueHammingCopy (call : OperationCall) (e : ImageCopyingEngine) (d : Devices) :
    Option (ReturnValue × ImageCopyingEngine × Devices) :=
  (copyImgHammingSdcToFram d.card call.hamming ⟨e, d.fram⟩).map
    fun (r, s) => (r, s.engine, { d with fram := s.fram })

/-- `copySdCardImageToNandFlash` on the board's memories, behind `configureNand` in the first call. -/
def continueNandCopy (call : OperationCall) (e : ImageCopyingEngine) (d : Devices) :
    Option (ReturnValue × ImageCopyingEngine × Devices) :=
  if d.nandConfigured = false ∧ call.configureNandFails then some (.returnFailed, e, d)
  else
    (copySdCardImageToNandFlash d.card call.nand ⟨e, d.nandFlash, d.nandCommands⟩).map
      fun (r, s) => (r, s.engine,
        { d with nandFlash := s.flash, nandCommands := s.commands, nandConfigured := true })

/-- `continueCurrentOperation`. -/
def continueCurrentOperation (board : Board) (hal : NorHal) (call : OperationCall)
    (e : ImageCopyingEngine) (d : Devices) :
    Option (ReturnValue × ImageCopyingEngine × Devices) :=
  match e.imageHandlerState with
  | .idle => some (.returnOk, e, d)
  | .copyImgSdcToFlash | .copyBlSdcToFlash =>
    match board with
    | .iobc => continueNorCopy hal call e d
    | .at91sam9g20Ek => continueNandCopy call e d
  | .copyImgSdcToSdc => continueSdcCopy board call e d
  | .copyImgHammingSdcToFram =>
    match board with
    | .iobc => continueHammingCopy call e d
    | .at91sam9g20Ek => some (.returnFailed, e, d)
  | .copyImgFlashToSdc =>
    match board with
    | .iobc => some (.returnFailed, e, d)
    -- a `break` out of the switch
    | .at91sam9g20Ek => some (.returnOk, e, d)
  | .copyBlFramToFlash | .copyBlSdcToFram | .copyBlHammingSdcToFram => some (.returnFailed, e, d)

end Engine
end Obsw
