import Obsw.Engine.Core
import Obsw.Engine.NorFlash
import Obsw.Fram.Api
import Obsw.Lib.Loop

/-!
# `Engine.NorCopy` — copying an image from an SD card to the NOR flash

`copySdCardImageToNorFlash` of `ImageCopyingiOBC.cpp` and everything below it: the erase step, the copy
step in buckets of one small sector, the address tables and the size and CRC fields written behind the
bootloader. The operation is continued over any number of calls; what the file system, the drivers and
the countdown answer in a call is its schedule entry `NorCall`.
-/

namespace Obsw
namespace Engine

open Memory LittleEndian Device Fram Loop ImageCopyingEngine

/-- The engine and the memories the operation writes. -/
structure NorState where
  engine : ImageCopyingEngine
  flash : Mem UInt8
  fram : Mem UInt8
  commands : List FlashCommand

/-! ## Schedules -/

/-- One pass of an erase loop. -/
structure ErasePass where
  erase : WriteOutcome UInt8
  timedOut : Bool

/-- One pass of the copy loop. -/
structure NorPass where
  /-- `fram_write_binary_size` -/
  sizeToFram : WriteOutcome UInt8
  /-- the most `f_read` delivers -/
  readGot : Nat
  /-- `NORFLASH_WriteData` of the bucket -/
  write : WriteOutcome UInt8
  /-- the two writes of `writeBootloaderSizeAndCrc` -/
  writeSize : WriteOutcome UInt8
  writeCrc : WriteOutcome UInt8
  timedOut : Bool

/-- One call of `copySdCardImageToNorFlash`. -/
structure NorCall where
  /-- `change_directory` in `handleObswErasure` -/
  repository : Int
  erases : List ErasePass
  /-- the countdown behind the erase step -/
  timedOut : Bool
  sdCardChangeOngoing : Bool
  fs : FsEnv
  passes : List NorPass

/-! ## `getBaseAddress` -/

/-- The sector erased in a step of the erase loop for an image. Step 13 repeats sector 21. -/
def obswEraseSector (stepCounter : Nat) : Nat :=
  match stepCounter with
  | 0 => 9
  | 1 => 10
  | 2 => 11
  | 3 => 12
  | 4 => 13
  | 5 => 14
  | 6 => 15
  | 7 => 16
  | 8 => 17
  | 9 => 18
  | 10 => 19
  | 11 => 20
  | 12 => 21
  | 13 => 21
  | _ => 22

/-- `getBaseAddress`: the address and the offset. The step counter is passed as a `uint8_t`; outside
    the tables the address is `0xffffffff`. -/
def getBaseAddress (hal : NorHal) (e : ImageCopyingEngine) (stepCounter : Nat) : Nat × Nat :=
  let stepCounter := stepCounter % 2 ^ 8
  if e.sourceSlot = .bootloader0 then
    match e.internalState with
    | .step1 =>
      if stepCounter ≤ 8 then (hal.sectorAddress stepCounter, 0) else (0xffffffff, 0)
    | .step2 =>
      let baseIdx := (e.currentByteIdx / norflashSmallSectorSize) % 2 ^ 8
      if baseIdx ≤ 8 then (hal.sectorAddress baseIdx, e.currentByteIdx % norflashSmallSectorSize)
      -- sector 8 is a large sector, written in eight buckets
      else if baseIdx ≤ 15 then (hal.sectorAddress 8, norflashSmallSectorSize * (baseIdx - 8))
      else (0xffffffff, e.currentByteIdx % norflashSmallSectorSize)
    | _ => (0xffffffff, 0)
  else
    match e.internalState with
    | .step1 => (hal.sectorAddress (obswEraseSector stepCounter), 0)
    | .step2 =>
      -- eight buckets for each of the large sectors 9 to 22
      if stepCounter < 112 then
        (hal.sectorAddress (9 + stepCounter / 8), stepCounter % 8 * norflashSmallSectorSize)
      else (0xffffffff, 0)
    | _ => (0xffffffff, 0)

/-! ## The erase step -/

/-- One pass of an erase loop: erase the sector of the step counter and count the step. -/
def erasePass (hal : NorHal) (pass : ErasePass) (s : NorState) :
    Option (Flow ReturnValue NorState) :=
  let address := (getBaseAddress hal s.engine s.engine.stepCounter).1
  let s := { s with
    flash := eraseSector pass.erase s.flash address
    commands := s.commands ++ [FlashCommand.erase address] }
  if pass.erase.retval ≠ 0 then some (.ret .returnFailed s)
  else
    let s := { s with engine := s.engine.countStep }
    if pass.timedOut then some (.ret .taskPeriodOverSoon s) else some (.next s)

/-- Run an erase loop up to a number of steps and go on with `finish`. -/
def eraseLoop (hal : NorHal) (steps : Nat) (passes : List ErasePass) (s : NorState)
    (finish : ImageCopyingEngine → ImageCopyingEngine) : Option (ReturnValue × NorState) :=
  match whileLoop (fun s => decide (s.engine.stepCounter < steps)) (erasePass hal) passes s with
  | none => none
  | some (.ret r s) => some (r, s)
  | some (.next s) =>
    some (.returnOk,
      if s.engine.stepCounter = steps then { s with engine := finish s.engine } else s)

/-- Reset the counter and helper members behind the erase loop of an image. -/
def finishObswErasure (e : ImageCopyingEngine) : ImageCopyingEngine :=
  { e with stepCounter := 0, helperFlag1 := false, helperCounter1 := 0 }

/-- Reset the counter and the flag behind the erase loop of the bootloader. -/
def finishBootloaderErasure (e : ImageCopyingEngine) : ImageCopyingEngine :=
  { e with stepCounter := 0, helperFlag1 := false }

/-- `handleObswErasure`. -/
def handleObswErasure (hal : NorHal) (card : Card) (call : NorCall) (s : NorState) :
    Option (ReturnValue × NorState) :=
  if s.engine.helperFlag1 then
    eraseLoop hal s.engine.helperCounter1 call.erases s finishObswErasure
  else if call.repository ≠ 0 then some (.returnFailed, s)
  else
    let currentFileSize :=
      if s.engine.sourceSlot = .sdcSlot0 then fFilelength card (swRepository, swSlot0Name)
      else if s.engine.sourceSlot = .sdcSlot1 then fFilelength card (swRepository, swSlot1Name)
      else s.engine.currentFileSize
    let s := { s with engine := { s.engine with
      currentFileSize := currentFileSize
      helperFlag1 := true
      helperCounter1 := reservedObswSectors } }
    eraseLoop hal s.engine.helperCounter1 call.erases s finishObswErasure

/-- `handleNorflashErasure`. -/
def handleNorflashErasure (hal : NorHal) (card : Card) (call : NorCall) (s : NorState) :
    Option (ReturnValue × NorState) :=
  if s.engine.sourceSlot = .bootloader0 then
    eraseLoop hal reservedBlSectors call.erases
      { s with engine := s.engine.setHelperFlag1 true } finishBootloaderErasure
  else handleObswErasure hal card call s

/-! ## The copy step -/

/-- `writeBootloaderSizeAndCrc`: the CRC is computed over the flash as it reads; results are not
    used. -/
def writeBootloaderSizeAndCrc (hal : NorHal) (pass : NorPass) (s : NorState) : NorState :=
  let size := s.engine.currentFileSize
  let flash := pass.writeSize.apply hal.program s.flash norflashBlSizeStart (toLE 4 size)
  let crc16 := hal.crc16ccitt (load flash 0 size)
  { s with
    flash := pass.writeCrc.apply hal.program flash norflashBlCrc16Start (toLE 2 crc16.toNat)
    commands := s.commands ++
      [FlashCommand.write norflashBlSizeStart 4, FlashCommand.write norflashBlCrc16Start 2] }

/-- The size of the next bucket. -/
def bucketSize (e : ImageCopyingEngine) : Nat :=
  if e.currentFileSize - e.currentByteIdx < norflashSmallSectorSize
  then e.currentFileSize - e.currentByteIdx
  else norflashSmallSectorSize

/-- `performNorCopyOperation`, first half: store the size in the FRAM in the first step. -/
def storeBinarySize (pass : NorPass) (s : NorState) : NorState :=
  if s.engine.stepCounter = 0 then
    { s with fram := (framWriteBinarySize pass.sizeToFram s.fram
      (if s.engine.sourceSlot = .bootloader0 then .bootloader0 else .flashSlot)
      s.engine.currentFileSize).2 }
  else s

/-- Fill the image buffer with the next bucket, unless it has been read but still needs to be
    copied. -/
def readBucket (pass : NorPass) (file : FFile) (e : ImageCopyingEngine) :
    ReturnValue × FFile × ImageCopyingEngine :=
  if e.helperFlag1 then (.returnOk, file, e)
  else
    let read := e.readFile pass.readGot (bucketSize e) file
    if read.1 ≠ .returnOk then (read.1, read.2.2)
    else if read.2.1 < bucketSize e then (.returnFailed, read.2.2)
    else (.returnOk, read.2.2)

/-- The address of the next bucket. -/
def writeAddress (hal : NorHal) (e : ImageCopyingEngine) : Nat :=
  (getBaseAddress hal e e.stepCounter).1 + (getBaseAddress hal e e.stepCounter).2

/-- The write command of a bucket, from the image buffer. -/
def programBucket (hal : NorHal) (pass : NorPass) (s : NorState) : NorState :=
  { s with
    flash := pass.write.apply hal.program s.flash (writeAddress hal s.engine)
      (load s.engine.imgBuffer 0 (bucketSize s.engine))
    commands := s.commands ++
      [FlashCommand.write (writeAddress hal s.engine) (bucketSize s.engine)] }

/-- Progress behind a written bucket; the next one is to be read. -/
def countBucket (e : ImageCopyingEngine) : ImageCopyingEngine :=
  { e.countStep with
    currentByteIdx := e.currentByteIdx + bucketSize e
    helperFlag1 := false }

/-- The end of the operation. -/
def finishNorCopy (hal : NorHal) (pass : NorPass) (s : NorState) : NorState :=
  let s := if s.engine.sourceSlot = .bootloader0 then writeBootloaderSizeAndCrc hal pass s else s
  { s with engine := { s.engine with lastFinishedState := s.engine.imageHandlerState }.reset }

/-- `performNorCopyOperation`, second half: write the bucket and count it. -/
def writeBucket (hal : NorHal) (pass : NorPass) (s : NorState) : ReturnValue × NorState :=
  let s := programBucket hal pass { s with engine := s.engine.setHelperFlag1 true }
  if pass.write.retval ≠ 0 then
    let s := { s with engine := s.engine.countError }
    (if 3 ≤ s.engine.errorCount then .returnFailed else .taskPeriodOverSoon, s)
  else
    let s := { s with engine := countBucket s.engine }
    if s.engine.currentFileSize ≤ s.engine.currentByteIdx then
      (.operationFinished, finishNorCopy hal pass s)
    else (if pass.timedOut then .taskPeriodOverSoon else .returnOk, s)

/-- `performNorCopyOperation`. -/
def performNorCopyOperation (hal : NorHal) (pass : NorPass) (file : FFile) (s : NorState) :
    ReturnValue × FFile × NorState :=
  if s.engine.currentFileSize = 0 then (.returnFailed, file, s)
  else
    let s := storeBinarySize pass s
    match readBucket pass file s.engine with
    | (.returnOk, file, e) =>
      let written := writeBucket hal pass { s with engine := e }
      (written.1, file, written.2)
    | (r, file, e) => (r, file, { s with engine := e })

/-- The opened file and the state, which the copy loop passes on. -/
abbrev NorLoop := FFile × NorState

/-- One pass of the copy loop. -/
def copyPass (hal : NorHal) (pass : NorPass) (s : NorLoop) : Option (Flow ReturnValue NorLoop) :=
  match performNorCopyOperation hal pass s.1 s.2 with
  | (.returnOk, s) => some (.next s)
  | (r, s) => some (.ret r s)

/-- `handleSdToNorCopyOperation`. -/
def handleSdToNorCopyOperation (hal : NorHal) (card : Card) (call : NorCall) (s : NorState) :
    Option (ReturnValue × NorState) :=
  if call.sdCardChangeOngoing then some (.returnFailed, s)
  else
    match prepareGenericFileInformation .iobc card call.fs s.engine with
    | (.error r, e) => some (r, { s with engine := e })
    | (.ok file, e) =>
      match whileLoop (fun _ => true) (copyPass hal) call.passes (file, { s with engine := e }) with
      | some (.ret r s) => some (r, s.2)
      | _ => none

/-! ## The operation -/

/-- The first half of `copySdCardImageToNorFlash`: begin with the erase step and finish it. -/
def eraseStep (hal : NorHal) (card : Card) (call : NorCall) (s : NorState) :
    Option (ReturnValue × NorState) :=
  let s := if s.engine.internalState = .idle
    then { s with engine := { s.engine with internalState := .step1 } } else s
  if s.engine.internalState = .step1 then handleNorflashErasure hal card call s
  else some (.returnOk, s)

/-- The state in which the copy step is entered. -/
def enterStep2 (s : NorState) : NorState :=
  { s with engine := { s.engine with internalState := .step2 } }

/-- `copySdCardImageToNorFlash`. -/
def copySdCardImageToNorFlash (hal : NorHal) (card : Card) (call : NorCall) (s : NorState) :
    Option (ReturnValue × NorState) :=
  match eraseStep hal card call s with
  | none => none
  | some (.returnOk, s) =>
    if call.timedOut then some (.taskPeriodOverSoon, enterStep2 s)
    else handleSdToNorCopyOperation hal card call (enterStep2 s)
  | some (r, s) => some (r, s)

/-- One call of the operation: it goes on in the next cycle or it has ended. -/
def norCall (hal : NorHal) (card : Card) (call : NorCall) (s : NorState) :
    Option (Flow ReturnValue NorState) :=
  match copySdCardImageToNorFlash hal card call s with
  | none => none
  | some (.taskPeriodOverSoon, s) => some (.next s)
  | some (r, s) => some (.ret r s)

/-- The operation over a schedule of calls, up to the value it ends with. -/
def norRun (hal : NorHal) (card : Card) (calls : List NorCall) (s : NorState) :
    Option (ReturnValue × NorState) :=
  match whileLoop (fun _ => true) (norCall hal card) calls s with
  | some (.ret r s) => some (r, s)
  | _ => none

/-- What is copied to the NOR flash: the bootloader or the image of a slot. -/
inductive NorTarget where
  | bootloader
  | obswSlot0
  | obswSlot1
  deriving DecidableEq, Repr

/-- `startBootloaderToFlashOperation` (from the SD card). -/
def startBootloaderToFlashOperation (e : ImageCopyingEngine) : ReturnValue × ImageCopyingEngine :=
  (.returnOk, { e with sourceSlot := .bootloader0, imageHandlerState := .copyBlSdcToFlash })

/-- Start the copy of a target on a reset engine. -/
def startNorCopy (target : NorTarget) (e : ImageCopyingEngine) : ImageCopyingEngine :=
  match target with
  | .bootloader => (startBootloaderToFlashOperation e.reset).2
  | .obswSlot0 => (startSdcToFlashOperation e.reset .sdcSlot0).2
  | .obswSlot1 => (startSdcToFlashOperation e.reset .sdcSlot1).2

end Engine
end Obsw
