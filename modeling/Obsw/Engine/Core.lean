import Obsw.Lib.Memory
import Obsw.SdCard

/-!
# `Engine.Core` — the image copying engine

The state of `ImageCopyingEngine`, its start and reset functions, and the two generic file functions
every copy operation uses (`ImageCopyingEngine.cpp`). An operation is started on a reset engine and
continued once or more in each task cycle until it returns something other than
`TASK_PERIOD_OVER_SOON`; the software image handler then resets the engine.
-/

namespace Obsw
namespace Engine

open Memory

/-- The return values an operation distinguishes. -/
inductive ReturnValue where
  | returnOk
  | returnFailed
  | operationFinished
  | taskPeriodOverSoon
  | framIssue
  | fErrNotfound
  deriving DecidableEq, Repr

/-- `image::ImageSlot`. -/
inductive ImageSlot where
  | none
  | bootloader0
  | bootloader1
  | flash
  | sdcSlot0
  | sdcSlot1
  deriving DecidableEq, Repr

inductive ImageHandlerStates where
  | idle
  | copyImgSdcToFlash
  | copyImgFlashToSdc
  | copyImgSdcToSdc
  | copyImgHammingSdcToFram
  | copyBlFramToFlash
  | copyBlHammingSdcToFram
  | copyBlSdcToFlash
  | copyBlSdcToFram
  deriving DecidableEq, Repr

inductive GenericInternalState where
  | idle
  | step1
  | step2
  | step3
  deriving DecidableEq, Repr

/-- The boards the engine is built for. -/
inductive Board where
  | iobc
  | at91sam9g20Ek
  deriving DecidableEq, Repr

/-- The members of the engine. `imgBuffer` is the memory from the start of the image buffer on; what
    lies behind the buffer's size is other memory of the program. -/
structure ImageCopyingEngine where
  imageHandlerState : ImageHandlerStates
  internalState : GenericInternalState
  sourceSlot : ImageSlot
  targetSlot : ImageSlot
  hammingCode : Bool
  stepCounter : Nat
  currentByteIdx : Nat
  currentFileSize : Nat
  errorCount : Nat
  helperFlag1 : Bool
  helperFlag2 : Bool
  helperCounter1 : Nat
  helperCounter2 : Nat
  lastFinishedState : ImageHandlerStates
  imgBuffer : Mem UInt8

namespace ImageCopyingEngine

/-- The engine as it is constructed. -/
def initial : ImageCopyingEngine where
  imageHandlerState := .idle
  internalState := .idle
  sourceSlot := .none
  targetSlot := .none
  hammingCode := false
  stepCounter := 0
  currentByteIdx := 0
  currentFileSize := 0
  errorCount := 0
  helperFlag1 := false
  helperFlag2 := false
  helperCounter1 := 0
  helperCounter2 := 0
  lastFinishedState := .idle
  imgBuffer := fun _ => 0

/-- `reset`. The last finished state and the buffer are kept. -/
def reset (e : ImageCopyingEngine) : ImageCopyingEngine :=
  { e with
    internalState := .idle
    imageHandlerState := .idle
    sourceSlot := .none
    targetSlot := .none
    stepCounter := 0
    currentByteIdx := 0
    currentFileSize := 0
    errorCount := 0
    helperFlag1 := false
    helperFlag2 := false
    helperCounter1 := 0
    helperCounter2 := 0
    hammingCode := false }

/-- `stepCounter++` on a `uint16_t`. -/
def countStep (e : ImageCopyingEngine) : ImageCopyingEngine :=
  { e with stepCounter := (e.stepCounter + 1) % 2 ^ 16 }

/-- `errorCount++` on a `uint8_t`. -/
def countError (e : ImageCopyingEngine) : ImageCopyingEngine :=
  { e with errorCount := (e.errorCount + 1) % 2 ^ 8 }

def setHelperFlag1 (e : ImageCopyingEngine) (flag : Bool) : ImageCopyingEngine :=
  { e with helperFlag1 := flag }

/-! ## Starting an operation -/

def startSdcToFlashOperation (e : ImageCopyingEngine) (sourceSlot : ImageSlot) :
    ReturnValue × ImageCopyingEngine :=
  if sourceSlot ≠ .sdcSlot0 ∧ sourceSlot ≠ .sdcSlot1 then (.returnFailed, e)
  else (.returnOk, { e with
    imageHandlerState := .copyImgSdcToFlash
    sourceSlot := sourceSlot
    targetSlot := .flash })

def startSdcToSdcOperation (e : ImageCopyingEngine) (sourceSlot : ImageSlot) :
    ReturnValue × ImageCopyingEngine :=
  (.returnOk, { e with
    imageHandlerState := .copyImgSdcToSdc
    sourceSlot := sourceSlot
    targetSlot := if sourceSlot = .sdcSlot1 then .sdcSlot0 else .sdcSlot1 })

/-- `startHammingCodeToFramOperation` of the iOBC, which has a single bootloader. -/
def startHammingCodeToFramOperation (e : ImageCopyingEngine) (respectiveSlot : ImageSlot) :
    ReturnValue × ImageCopyingEngine :=
  if respectiveSlot = .none ∨ respectiveSlot = .bootloader1 then (.returnFailed, e)
  else (.returnOk, { e with
    hammingCode := true
    sourceSlot := respectiveSlot
    imageHandlerState :=
      if respectiveSlot = .bootloader0 then .copyBlHammingSdcToFram
      else .copyImgHammingSdcToFram })

/-! ## `prepareGenericFileInformation` -/

/-- The file an operation reads, by source slot and hamming code flag. `f_filelength` and `f_open`
    name the same file in every branch; there is none for the flash image itself. -/
def genericFile (board : Board) (e : ImageCopyingEngine) : Option Path :=
  match e.sourceSlot with
  | .bootloader0 =>
    some (bootloaderRepository, if e.hammingCode then blHammingName else bootloaderName)
  | .bootloader1 =>
    if e.hammingCode then some (bootloaderRepository, blHammingName)
    else if board = .at91sam9g20Ek then some (bootloaderRepository, bootloader2Name)
    else none
  | .flash => if e.hammingCode then some (swRepository, swFlashHammingName) else none
  | .sdcSlot0 =>
    some (swRepository, if e.hammingCode then swSlot0HammingName else swSlot0Name)
  | .sdcSlot1 =>
    some (swRepository, if e.hammingCode then swSlot1HammingName else swSlot1Name)
  | .none => none

/-- The answers of the file system while a file is prepared. -/
structure FsEnv where
  changeDirectory : Int
  /-- `f_open` fails although the file exists -/
  openFails : Bool
  seek : Int

/-- The file size is cached as long as the step counter is 0. -/
def cacheFileSize (card : Card) (path : Path) (e : ImageCopyingEngine) : ImageCopyingEngine :=
  if e.stepCounter = 0 then { e with currentFileSize := fFilelength card path } else e

/-- `prepareGenericFileInformation`: the opened file, positioned at the current byte index, or the
    value returned. -/
def prepareGenericFileInformation (board : Board) (card : Card) (env : FsEnv)
    (e : ImageCopyingEngine) : Except ReturnValue FFile × ImageCopyingEngine :=
  if env.changeDirectory ≠ 0 then (.error .returnFailed, e)
  else
    match genericFile board e with
    | none => (.error (if e.sourceSlot = .flash then .returnFailed else .fErrNotfound), e)
    | some path =>
      let e := cacheFileSize card path e
      if env.openFails ∨ card path = none then (.error .fErrNotfound, e)
      else if env.seek ≠ 0 then (.error .returnFailed, e)
      else (.ok ⟨fileBytes card path, e.currentByteIdx⟩, e)

@[simp] theorem cacheFileSize_currentByteIdx (card : Card) (path : Path) (e : ImageCopyingEngine) :
    (cacheFileSize card path e).currentByteIdx = e.currentByteIdx := by
  unfold cacheFileSize
  split_ifs <;> rfl

/-- The answers of a file system without errors. -/
def quietFs : FsEnv := ⟨0, false, 0⟩

/-- Without errors, the file is opened at the current byte index. -/
theorem prepareGenericFileInformation_quiet (card : Card) {board : Board} {e : ImageCopyingEngine}
    {path : Path} (hpath : genericFile board e = some path)
    (hpos : 0 < (fileBytes card path).length) :
    prepareGenericFileInformation board card quietFs e =
      (.ok ⟨fileBytes card path, e.currentByteIdx⟩, cacheFileSize card path e) := by
  have hfile := exists_of_fileBytes hpos
  unfold prepareGenericFileInformation
  rw [if_neg (show ¬ quietFs.changeDirectory ≠ 0 from not_not.mpr rfl), hpath]
  dsimp only
  rw [if_neg (by simpa [quietFs] using hfile),
    if_neg (show ¬ quietFs.seek ≠ 0 from not_not.mpr rfl), cacheFileSize_currentByteIdx]

/-- A prepared file is the operation's file at the current byte index. -/
theorem prepareGenericFileInformation_ok {board : Board} {card : Card} {env : FsEnv}
    {e e' : ImageCopyingEngine} {file : FFile}
    (h : prepareGenericFileInformation board card env e = (.ok file, e')) :
    ∃ path, genericFile board e = some path ∧ e' = cacheFileSize card path e ∧
      file = ⟨fileBytes card path, e'.currentByteIdx⟩ := by
  unfold prepareGenericFileInformation at h
  by_cases hdir : env.changeDirectory ≠ 0
  · simp [hdir] at h
  · rw [if_neg hdir] at h
    cases hpath : genericFile board e with
    | none => simp [hpath] at h
    | some path =>
        simp only [hpath] at h
        split_ifs at h with hopen hseek
        · cases h
        · cases h
        · obtain ⟨hfile, rfl⟩ := Prod.mk.inj h
          exact ⟨path, rfl, rfl, (Except.ok.inj hfile).symm⟩

/-- An error of the preparation ends the operation. -/
theorem prepareGenericFileInformation_error {board : Board} {card : Card} {env : FsEnv}
    {e e' : ImageCopyingEngine} {r : ReturnValue}
    (h : prepareGenericFileInformation board card env e = (.error r, e')) :
    r = .returnFailed ∨ r = .fErrNotfound := by
  unfold prepareGenericFileInformation at h
  by_cases hdir : env.changeDirectory ≠ 0
  · rw [if_pos hdir] at h
    exact .inl (Except.error.inj (Prod.mk.inj h).1).symm
  · rw [if_neg hdir] at h
    cases hpath : genericFile board e with
    | none =>
        simp only [hpath] at h
        have hr := Except.error.inj (Prod.mk.inj h).1
        split_ifs at hr
        · exact .inl hr.symm
        · exact .inr hr.symm
    | some path =>
        simp only [hpath] at h
        split_ifs at h with hopen hseek
        · exact .inr (Except.error.inj (Prod.mk.inj h).1).symm
        · exact .inl (Except.error.inj (Prod.mk.inj h).1).symm
        · cases h

/-! ## `readFile` -/

/-- `readFile`: the result, the number of bytes read, and the file and engine behind the call. The
    third failed read of an operation gives up. -/
def readFile (got : Nat) (e : ImageCopyingEngine) (sizeToRead : Nat) (file : FFile) :
    ReturnValue × Nat × FFile × ImageCopyingEngine :=
  let read := fRead file sizeToRead got
  let e := { e with imgBuffer := store e.imgBuffer 0 read.1 }
  if read.1.length = 0 then
    (if 3 ≤ e.countError.errorCount then .returnFailed else .taskPeriodOverSoon,
      0, read.2, e.countError)
  else (.returnOk, read.1.length, read.2, e)

/-- A read that delivers something succeeds. -/
theorem readFile_eq {got sizeToRead : Nat} {file : FFile} (e : ImageCopyingEngine)
    (h : (fRead file sizeToRead got).1.length ≠ 0) :
    readFile got e sizeToRead file =
      (.returnOk, (fRead file sizeToRead got).1.length, (fRead file sizeToRead got).2,
        { e with imgBuffer := store e.imgBuffer 0 (fRead file sizeToRead got).1 }) := if_neg h

theorem readFile_ok {got sizeToRead sizeRead : Nat} {e e' : ImageCopyingEngine} {file file' : FFile}
    (h : readFile got e sizeToRead file = (.returnOk, sizeRead, file', e')) :
    sizeRead = (fRead file sizeToRead got).1.length ∧ sizeRead ≠ 0 ∧
      file' = (fRead file sizeToRead got).2 ∧
      e' = { e with imgBuffer := store e.imgBuffer 0 (fRead file sizeToRead got).1 } := by
  unfold readFile at h
  dsimp only at h
  by_cases hempty : (fRead file sizeToRead got).1.length = 0
  · rw [if_pos hempty] at h
    have hr := (Prod.mk.inj h).1
    split_ifs at hr
  · rw [if_neg hempty] at h
    obtain ⟨_, rfl, rfl, rfl⟩ := h
    exact ⟨rfl, hempty, rfl, rfl⟩

theorem readFile_failed {got sizeToRead sizeRead : Nat} {e e' : ImageCopyingEngine}
    {file file' : FFile} {r : ReturnValue}
    (h : readFile got e sizeToRead file = (r, sizeRead, file', e')) (hr : r ≠ .returnOk) :
    (r = .taskPeriodOverSoon ∨ r = .returnFailed) ∧ (fRead file sizeToRead got).1.length = 0 ∧
      e' = { e with imgBuffer := store e.imgBuffer 0 (fRead file sizeToRead got).1 }.countError := by
  unfold readFile at h
  dsimp only at h
  by_cases hempty : (fRead file sizeToRead got).1.length = 0
  · rw [if_pos hempty] at h
    obtain ⟨rfl, _, _, rfl⟩ := h
    refine ⟨?_, hempty, rfl⟩
    split_ifs
    · exact .inr rfl
    · exact .inl rfl
  · rw [if_neg hempty] at h
    exact absurd (Prod.mk.inj h).1.symm hr

end ImageCopyingEngine
end Engine
end Obsw
