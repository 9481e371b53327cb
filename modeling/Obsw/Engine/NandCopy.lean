import Obsw.Engine.Core
import Obsw.Engine.NandFlash
import Obsw.Lib.LittleEndian
import Obsw.Lib.Loop

/-!
# `Engine.NandCopy` — copying an image from an SD card to the NAND flash

`copySdCardImageToNandFlash` of `ImageCopyingAT91.cpp` and everything below it, in the build with a
two-stage bootloader: the erase step, and the copy step page by page. What the file system, the driver
and the countdown answer in a call is its schedule entry `NandCall`.
-/

namespace Obsw
namespace Engine

open Memory LittleEndian Loop ImageCopyingEngine

/-- The engine, the flash and the commands given to its driver. -/
structure NandState where
  engine : ImageCopyingEngine
  flash : NandFlash
  commands : List NandCommand

/-! ## Schedules -/

/-- One pass of the erase loop. -/
structure NandErasePass where
  erase : NandOutcome (Nat → Page)
  timedOut : Bool

/-- One pass of the copy loop. -/
structure NandPass where
  /-- the countdown at the start of the pass -/
  timedOutBefore : Bool
  /-- the most `f_read` delivers -/
  readGot : Nat
  write : NandOutcome Page
  /-- the countdown behind the write -/
  timedOut : Bool

/-- One call of `copySdCardImageToNandFlash`. -/
structure NandCall where
  /-- the countdown at the start of the erase step -/
  timedOutBefore : Bool
  /-- `change_directory` in `handleErasingForObsw` -/
  repository : Int
  /-- the erasure of a bootloader block -/
  eraseBootloader : NandOutcome (Nat → Page)
  erases : List NandErasePass
  /-- the countdown behind the erase step -/
  timedOut : Bool
  fs : FsEnv
  passes : List NandPass

/-! ## The erase step -/

/-- A file size as a `float`: rounded to 24 significant bits, ties to even. -/
def floatOfSize (n : Nat) : Nat :=
  if n < 2 ^ 24 then n
  else
    let ulp := 2 ^ (Nat.log2 n - 23)
    let q := n / ulp
    if ulp < 2 * (n % ulp) ∨ (ulp = 2 * (n % ulp) ∧ q % 2 = 1) then (q + 1) * ulp else q * ulp

/-- `requiredBlocks`, a `uint8_t`. -/
def requiredBlocks (fileSize : Nat) : Nat :=
  (floatOfSize fileSize + (pagesPerBlock * nandPageSize - 1)) / (pagesPerBlock * nandPageSize) %
    2 ^ 8

/-- One pass of the erase loop. A block that cannot be erased is skipped; the first two blocks are
    reserved for the bootloaders. -/
def nandErasePass (pass : NandErasePass) (s : NandState) : Option (Flow ReturnValue NandState) :=
  let block := (s.engine.helperCounter1 + 2) % 2 ^ 16
  let s : NandState :=
    { engine := { s.engine with helperCounter1 := (s.engine.helperCounter1 + 1) % 2 ^ 16 }
      flash := skipBlockEraseBlock pass.erase s.flash block
      commands := s.commands ++ [.erase block] }
  if pass.timedOut then some (.ret .taskPeriodOverSoon s) else some (.next s)

/-- The size and the number of blocks are cached once. -/
def cacheRequiredBlocks (card : Card) (e : ImageCopyingEngine) : ImageCopyingEngine :=
  let currentFileSize :=
    if e.sourceSlot = .sdcSlot0 then fFilelength card (swRepository, swSlot0Name)
    else if e.sourceSlot = .sdcSlot1 then fFilelength card (swRepository, swSlot1Name)
    else e.currentFileSize
  { e with
    currentFileSize := currentFileSize
    helperFlag1 := true
    helperCounter1 := 0
    helperCounter2 := requiredBlocks currentFileSize + 2 }

/-- There are blocks left to erase. -/
def moreBlocks (s : NandState) : Bool :=
  decide (s.engine.helperCounter1 < s.engine.helperCounter2)

/-- `handleErasingForObsw`. -/
def handleErasingForObsw (card : Card) (call : NandCall) (s : NandState) :
    Option (ReturnValue × NandState) :=
  if s.engine.helperFlag1 = false ∧ call.repository ≠ 0 then some (.returnFailed, s)
  else
    let s := if s.engine.helperFlag1 then s
      else { s with engine := cacheRequiredBlocks card s.engine }
    match whileLoop moreBlocks nandErasePass call.erases s with
    | none => none
    | some (.ret r s) => some (r, s)
    | some (.next s) =>
      some (.returnOk, { s with engine := { s.engine with stepCounter := 0, helperFlag1 := false } })

/-- Erase the block of a bootloader. -/
def eraseBootloaderBlock (call : NandCall) (block : Nat) (s : NandState) : ReturnValue × NandState :=
  (if call.eraseBootloader.retval ≠ 0 then .returnFailed else .returnOk,
    { s with
      flash := skipBlockEraseBlock call.eraseBootloader s.flash block
      commands := s.commands ++ [.erase block] })

/-- The erasure in `handleNandErasure`, by source slot. -/
def eraseForSource (card : Card) (call : NandCall) (s : NandState) :
    Option (ReturnValue × NandState) :=
  if s.engine.sourceSlot = .bootloader0 then some (eraseBootloaderBlock call 0 s)
  else if s.engine.sourceSlot = .bootloader1 then some (eraseBootloaderBlock call 1 s)
  else handleErasingForObsw card call s

/-- `handleNandErasure`. -/
def handleNandErasure (card : Card) (call : NandCall) (s : NandState) :
    Option (ReturnValue × NandState) :=
  if call.timedOutBefore then some (.taskPeriodOverSoon, s)
  else
    match eraseForSource card call s with
    | none => none
    | some (.returnOk, s) =>
      let s := { s with engine := { s.engine with internalState := .step2 } }
      some (if call.timedOut then .taskPeriodOverSoon else .returnOk, s)
    | some (r, s) => some (r, s)

/-! ## The copy step -/

/-- The size of the next page. -/
def nandSizeToRead (e : ImageCopyingEngine) : Nat :=
  if e.currentFileSize - e.currentByteIdx < nandPageSize then e.currentFileSize - e.currentByteIdx
  else nandPageSize

/-- Set the rest of the buffer which will not be overwritten to 0. -/
def padBuffer (e : ImageCopyingEngine) : ImageCopyingEngine :=
  if e.currentFileSize - e.currentByteIdx < nandPageSize then
    { e with
      imgBuffer := fill e.imgBuffer (nandSizeToRead e) (nandPageSize - nandSizeToRead e) 0 }
  else e

/-- Fill the image buffer with the next page, unless it has been read but still needs to be copied. -/
def readPage (pass : NandPass) (file : FFile) (e : ImageCopyingEngine) :
    ReturnValue × FFile × ImageCopyingEngine :=
  if e.helperFlag1 then (.returnOk, file, e)
  else
    let read := e.readFile pass.readGot (nandSizeToRead e) file
    if read.1 ≠ .returnOk then (read.1, read.2.2)
    else if read.2.1 < nandSizeToRead e then (.returnFailed, read.2.2)
    else (.returnOk, read.2.2)

/-- The first block of a slot. -/
def nandStartBlock (sourceSlot : ImageSlot) : Nat :=
  if sourceSlot = .bootloader0 then 0 else if sourceSlot = .bootloader1 then 1 else 2

/-- What is done in the first step: the counters are set, and the size of the first-stage bootloader
    is written to its sixth ARM vector. -/
def beginNandCopy (e : ImageCopyingEngine) : ImageCopyingEngine :=
  if e.stepCounter = 0 then
    { e with
      imgBuffer := if e.sourceSlot = .bootloader0 then
        store e.imgBuffer 0x14 (toLE 4 e.currentFileSize) else e.imgBuffer
      helperCounter1 := nandStartBlock e.sourceSlot
      helperCounter2 := 0
      currentByteIdx := 0 }
  else e

/-- Go on to the next block when all pages of the current one have been written. -/
def nextBlock (e : ImageCopyingEngine) : ImageCopyingEngine :=
  if 0 < e.stepCounter ∧ e.helperCounter2 = pagesPerBlock then
    { e with helperCounter1 := (e.helperCounter1 + 1) % 2 ^ 16, helperCounter2 := 0 }
  else e

/-- Progress behind a written page; the next one is to be read. -/
def countPage (e : ImageCopyingEngine) : ImageCopyingEngine :=
  { e.countStep with
    helperCounter2 := (e.helperCounter2 + 1) % 2 ^ 16
    helperFlag1 := false
    errorCount := 0
    currentByteIdx := e.currentByteIdx + nandPageSize }

/-- The page write of `performNandCopyAlgorithm` and what follows it. -/
def writePage (pass : NandPass) (s : NandState) : ReturnValue × NandState :=
  let s : NandState := { s with
    flash := skipBlockWritePage pass.write s.flash s.engine.helperCounter1 s.engine.helperCounter2
      (load s.engine.imgBuffer 0 nandPageSize)
    commands := s.commands ++ [.write s.engine.helperCounter1 s.engine.helperCounter2] }
  if pass.write.retval ≠ 0 then
    let s := { s with engine := s.engine.countError }
    -- five times, says the comment of the source
    (if 3 ≤ s.engine.errorCount then .returnFailed else .taskPeriodOverSoon, s)
  else
    let s := { s with engine := countPage s.engine }
    if s.engine.currentFileSize ≤ s.engine.currentByteIdx then
      (.operationFinished, { s with engine :=
        { s.engine with lastFinishedState := s.engine.imageHandlerState }.reset })
    else (if pass.timedOut then .taskPeriodOverSoon else .returnOk, s)

/-- The engine when a page is about to be written. -/
def pageRead (e : ImageCopyingEngine) : ImageCopyingEngine :=
  nextBlock (beginNandCopy { e with errorCount := 0, helperFlag1 := true })

/-- `performNandCopyAlgorithm`. -/
def performNandCopyAlgorithm (pass : NandPass) (file : FFile) (s : NandState) :
    ReturnValue × FFile × NandState :=
  if pass.timedOutBefore then (.taskPeriodOverSoon, file, s)
  else
    match readPage pass file (padBuffer s.engine) with
    | (.returnOk, file, e) =>
      let written := writePage pass { s with engine := pageRead e }
      (written.1, file, written.2)
    | (r, file, e) => (r, file, { s with engine := e })

/-- The opened file and the state, which the copy loop passes on. -/
abbrev NandLoop := FFile × NandState

/-- One pass of the copy loop. -/
def nandCopyPass (pass : NandPass) (s : NandLoop) : Option (Flow ReturnValue NandLoop) :=
  match performNandCopyAlgorithm pass s.1 s.2 with
  | (.returnOk, s) => some (.next s)
  | (r, s) => some (.ret r s)

/-- `handleSdToNandCopyOperation`. -/
def handleSdToNandCopyOperation (card : Card) (call : NandCall) (s : NandState) :
    Option (ReturnValue × NandState) :=
  match prepareGenericFileInformation .at91sam9g20Ek card call.fs s.engine with
  | (.error r, e) => some (r, { s with engine := e })
  | (.ok file, e) =>
    match whileLoop (fun _ => true) nandCopyPass call.passes (file, { s with engine := e }) with
    | some (.ret r s) => some (r, s.2)
    | _ => none

/-! ## The operation -/

/-- The first half of `copySdCardImageToNandFlash`: begin with the erase step and finish it. -/
def nandEraseStep (card : Card) (call : NandCall) (s : NandState) :
    Option (ReturnValue × NandState) :=
  let s := if s.engine.internalState = .idle
    then { s with engine := { s.engine with internalState := .step1 } } else s
  if s.engine.internalState = .step1 then handleNandErasure card call s else some (.returnOk, s)

/-- `copySdCardImageToNandFlash`. -/
def copySdCardImageToNandFlash (card : Card) (call : NandCall) (s : NandState) :
    Option (ReturnValue × NandState) :=
  match nandEraseStep card call s with
  | none => none
  | some (.returnOk, s) =>
    if s.engine.internalState = .step2 then handleSdToNandCopyOperation card call s
    else some (.returnOk, s)
  | some (r, s) => some (r, s)

/-- One call of the operation: it goes on in the next cycle or it has ended. -/
def nandCall (card : Card) (call : NandCall) (s : NandState) : Option (Flow ReturnValue NandState) :=
  match copySdCardImageToNandFlash card call s with
  | none => none
  | some (.taskPeriodOverSoon, s) => some (.next s)
  | some (r, s) => some (.ret r s)

/-- The operation over a schedule of calls, up to the value it ends with. -/
def nandRun (card : Card) (calls : List NandCall) (s : NandState) : Option (ReturnValue × NandState) :=
  match whileLoop (fun _ => true) (nandCall card) calls s with
  | some (.ret r s) => some (r, s)
  | _ => none

/-- What is copied to the NAND flash: one of the bootloaders or the image of a slot. -/
inductive NandTarget where
  | bootloader0
  | bootloader1
  | obswSlot0
  | obswSlot1
  deriving DecidableEq, Repr

/-- `startBootloaderToFlashOperation` of the AT91 board. -/
def startAt91BootloaderToFlashOperation (e : ImageCopyingEngine) (bootloaderType : ImageSlot)
    (fromFram : Bool) : ReturnValue × ImageCopyingEngine :=
  if bootloaderType ≠ .bootloader0 ∧ bootloaderType ≠ .bootloader1 then (.returnFailed, e)
  else if fromFram then (.returnFailed, { e with sourceSlot := bootloaderType })
  else (.returnOk, { e with
    sourceSlot := bootloaderType
    imageHandlerState := .copyBlSdcToFlash })

/-- Start the copy of a target on a reset engine. -/
def startNandCopy (target : NandTarget) (e : ImageCopyingEngine) : ImageCopyingEngine :=
  match target with
  | .bootloader0 => (startAt91BootloaderToFlashOperation e.reset .bootloader0 false).2
  | .bootloader1 => (startAt91BootloaderToFlashOperation e.reset .bootloader1 false).2
  | .obswSlot0 => (startSdcToFlashOperation e.reset .sdcSlot0).2
  | .obswSlot1 => (startSdcToFlashOperation e.reset .sdcSlot1).2

end Engine
end Obsw
