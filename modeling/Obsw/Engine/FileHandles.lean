import Obsw.Engine.HammingCopy
import Obsw.Engine.NandCopy
import Obsw.Engine.NorCopy
import Obsw.Engine.SdcCopy
import Obsw.Sdc.ClearCard

/-!
# `Engine.FileHandles` — the files the copy operations and the SD card API open and close

The operations of the image copying engine that read a file share `prepareGenericFileInformation`, which
opens it through a pointer of the caller; each of them closes it in a way of its own, or not at all. The
functions here follow that pointer along the paths of `ImageCopyingEngine.cpp`, `ImageCopyingAT91.cpp`
and `ImageCopyingiOBC.cpp`, and return what the operation returns with the calls that open and close a
file. The copy loops in between open and close none.

## Contents
- `prepareFilePtr`: the pointer and the calls of `prepareGenericFileInformation`.
- `copySdcImgToSdcCalls`, `handleSdToNandCopyOperationCalls`, `handleSdToNorCopyOperationCalls`,
  `copyImgHammingSdcToFramCalls`: the operations, each with a theorem that it returns what the operation
  returns.
- `FileOperation.disciplined_iff`: when an operation closes what it opens, and nothing else.
-/

namespace Obsw
namespace Engine
namespace FileHandles

open Handles Loop ImageCopyingEngine

/-! ## `prepareGenericFileInformation` -/

/-- The file an operation reads. -/
def sourceFile : Nat := 0

/-- The file `copySdcImgToSdc` appends to. -/
def targetFile : Nat := 1

/-- What `prepareGenericFileInformation` returns and leaves in the pointer, and the calls it makes. -/
structure Prepared where
  result : ReturnValue
  filePtr : Pointer Nat
  calls : List (Call Nat)
  deriving DecidableEq

/-- The test of the pointer and the seek behind it. A file that cannot be positioned is closed and stays
    in the pointer. -/
def seekFile (env : FsEnv) (filePtr : Pointer Nat) (calls : List (Call Nat)) : Prepared :=
  if filePtr = .null then ⟨.fErrNotfound, filePtr, calls⟩
  else if env.seek ≠ 0 then ⟨.returnFailed, filePtr, calls ++ [.closed filePtr]⟩
  else ⟨.returnOk, filePtr, calls⟩

/-- `prepareGenericFileInformation`, called with what the pointer holds before. -/
def prepareFilePtr (board : Board) (card : Card) (env : FsEnv) (e : ImageCopyingEngine)
    (filePtr : Pointer Nat) : Prepared :=
  if env.changeDirectory ≠ 0 then ⟨.returnFailed, filePtr, []⟩
  else
    match genericFile board e with
    -- no branch assigns the pointer
    | none =>
      if e.sourceSlot = .flash then ⟨.returnFailed, filePtr, []⟩ else seekFile env filePtr []
    | some path =>
      if env.openFails ∨ card path = none then seekFile env .null []
      else seekFile env (.handle sourceFile) [.opened sourceFile]

/-- `prepareGenericFileInformation` gets to a branch that assigns the pointer. -/
structure AssignsPointer (board : Board) (env : FsEnv) (e : ImageCopyingEngine) : Prop where
  changeDirectory : env.changeDirectory = 0
  file : genericFile board e ≠ none

/-- It opens the file. -/
structure OpensFile (board : Board) (card : Card) (env : FsEnv) (e : ImageCopyingEngine) : Prop where
  assigns : AssignsPointer board env e
  opens : env.openFails = false
  exists_file : ∀ path, genericFile board e = some path → card path ≠ none

/-- It opens the file and positions it. -/
structure PreparesFile (board : Board) (card : Card) (env : FsEnv) (e : ImageCopyingEngine) : Prop where
  opensFile : OpensFile board card env e
  seek : env.seek = 0

variable {board : Board} {card : Card} {env : FsEnv} {e : ImageCopyingEngine}

theorem prepareFilePtr_opens (h : OpensFile board card env e) (filePtr : Pointer Nat) :
    prepareFilePtr board card env e filePtr =
      seekFile env (.handle sourceFile) [.opened sourceFile] := by
  obtain ⟨path, hpath⟩ := Option.ne_none_iff_exists'.mp h.assigns.file
  simp [prepareFilePtr, h.assigns.changeDirectory, h.opens, hpath, h.exists_file path hpath]

/-- A prepared file is open. -/
theorem prepareFilePtr_prepares (h : PreparesFile board card env e) (filePtr : Pointer Nat) :
    prepareFilePtr board card env e filePtr =
      ⟨.returnOk, .handle sourceFile, [.opened sourceFile]⟩ := by
  rw [prepareFilePtr_opens h.opensFile]
  simp [seekFile, h.seek]

/-- Behind a failed seek, the pointer holds a file that is closed. -/
theorem prepareFilePtr_seekFails (h : OpensFile board card env e) (hseek : env.seek ≠ 0)
    (filePtr : Pointer Nat) :
    prepareFilePtr board card env e filePtr =
      ⟨.returnFailed, .handle sourceFile,
        [.opened sourceFile, .closed (.handle sourceFile)]⟩ := by
  rw [prepareFilePtr_opens h]
  simp [seekFile, hseek]

/-- An open that fails sets the pointer to null. -/
theorem prepareFilePtr_openFails (hassigns : AssignsPointer board env e)
    (hopens : ¬ OpensFile board card env e) (filePtr : Pointer Nat) :
    prepareFilePtr board card env e filePtr = ⟨.fErrNotfound, .null, []⟩ := by
  obtain ⟨path, hpath⟩ := Option.ne_none_iff_exists'.mp hassigns.file
  have hfails : env.openFails = true ∨ card path = none := by
    by_contra hnot
    push Not at hnot
    refine hopens ⟨hassigns, by simpa using hnot.1, ?_⟩
    intro path' hpath'
    obtain rfl := Option.some.inj (hpath.symm.trans hpath')
    exact hnot.2
  simp [prepareFilePtr, hassigns.changeDirectory, hpath, hfails, seekFile]

/-- A pointer that no branch assigns is kept, and nothing is opened. If it is null, that is seen, or the
    function has failed before. -/
theorem prepareFilePtr_unassigned (card : Card) (hassigns : ¬ AssignsPointer board env e)
    (filePtr : Pointer Nat) :
    ∃ r calls, prepareFilePtr board card env e filePtr = ⟨r, filePtr, calls⟩ ∧
      (∀ file, .opened file ∉ calls) ∧ (filePtr = .null → r ≠ .returnOk ∧ calls = []) := by
  unfold prepareFilePtr
  by_cases hdirectory : env.changeDirectory = 0
  · have hfile : genericFile board e = none := by
      by_contra hfile
      exact hassigns ⟨hdirectory, hfile⟩
    simp only [hdirectory, hfile, ne_eq, not_true_eq_false, if_false]
    by_cases hflash : e.sourceSlot = .flash
    · exact ⟨.returnFailed, [], if_pos hflash, by simp, by simp⟩
    · rw [if_neg hflash]
      unfold seekFile
      by_cases hnull : filePtr = .null
      · exact ⟨.fErrNotfound, [], if_pos hnull, by simp, by simp⟩
      · rw [if_neg hnull]
        by_cases hseek : env.seek = 0
        · exact ⟨.returnOk, [], by simp [hseek], by simp, by simp [hnull]⟩
        · exact ⟨.returnFailed, [.closed filePtr], by simp [hseek], by simp, by simp [hnull]⟩
  · exact ⟨.returnFailed, [], by simp [hdirectory], by simp, by simp⟩

/-- Without a file, a pointer that was null is null and no call is made. -/
theorem prepareFilePtr_null_of_not_opens (hopens : ¬ OpensFile board card env e) :
    ∃ r, r ≠ .returnOk ∧ prepareFilePtr board card env e .null = ⟨r, .null, []⟩ := by
  by_cases hassigns : AssignsPointer board env e
  · exact ⟨.fErrNotfound, by simp, prepareFilePtr_openFails hassigns hopens .null⟩
  · obtain ⟨r, calls, hprepared, _, hnull⟩ := prepareFilePtr_unassigned card hassigns .null
    obtain ⟨hr, rfl⟩ := hnull rfl
    exact ⟨r, hr, hprepared⟩

/-- What `prepareGenericFileInformation` returns, without the file. -/
def returned : Except ReturnValue FFile → ReturnValue
  | .error r => r
  | .ok _ => .returnOk

/-- **The function that follows the pointer returns what `prepareGenericFileInformation` returns.** A
    pointer that is not assigned has to be null. -/
theorem prepareFilePtr_result {filePtr : Pointer Nat}
    (h : filePtr = .null ∨ genericFile board e ≠ none) :
    (prepareFilePtr board card env e filePtr).result =
      returned (prepareGenericFileInformation board card env e).1 := by
  unfold prepareFilePtr prepareGenericFileInformation
  by_cases hdirectory : env.changeDirectory = 0
  · cases hfile : genericFile board e with
    | none =>
        obtain rfl := h.resolve_right (by simp [hfile])
        by_cases hflash : e.sourceSlot = .flash
        · simp [hdirectory, hflash, returned]
        · simp [hdirectory, hflash, returned, seekFile]
    | some path =>
        by_cases hfails : env.openFails = true ∨ card path = none
        · simp [hdirectory, hfails, returned, seekFile]
        · by_cases hseek : env.seek = 0
          · simp [hdirectory, hfails, hseek, returned, seekFile]
          · simp [hdirectory, hfails, hseek, returned, seekFile]
  · simp [hdirectory, returned]

/-- The two agree on the error. -/
theorem prepareFilePtr_error {filePtr : Pointer Nat} {e' : ImageCopyingEngine} {r : ReturnValue}
    (h : filePtr = .null ∨ genericFile board e ≠ none)
    (hprepare : prepareGenericFileInformation board card env e = (.error r, e')) :
    (prepareFilePtr board card env e filePtr).result = r ∧ r ≠ .returnOk := by
  refine ⟨by rw [prepareFilePtr_result h, hprepare]; rfl, ?_⟩
  rintro rfl
  rcases prepareGenericFileInformation_error hprepare with hr | hr
  · cases hr
  · cases hr

/-- The two agree on success. -/
theorem prepareFilePtr_ok {filePtr : Pointer Nat} {e' : ImageCopyingEngine} {file : FFile}
    (h : filePtr = .null ∨ genericFile board e ≠ none)
    (hprepare : prepareGenericFileInformation board card env e = (.ok file, e')) :
    (prepareFilePtr board card env e filePtr).result = .returnOk := by
  rw [prepareFilePtr_result h, hprepare]
  rfl

/-! ## The operations -/

/-- What an operation returns, with the calls it has made by then. -/
abbrev Outcome := Option (ReturnValue × List (Call Nat))

/-- The outcome of an operation that makes the calls on each of its paths. -/
def returning {σ : Type} (result : Option (ReturnValue × σ)) (calls : List (Call Nat)) : Outcome :=
  result.map fun r => (r.1, calls)

/-- `copySdcImgToSdc`. The guard of the target is destroyed on each way out of the loop; the source has
    none. -/
def copySdcImgToSdcCalls (board : Board) (call : SdcCall) (s : SdcState) : Outcome :=
  let prepared := prepareFilePtr board s.card call.fs s.engine .null
  if prepared.result ≠ .returnOk then some (prepared.result, prepared.calls)
  else if call.openTargetFails then some (.returnFailed, prepared.calls)
  else returning (copySdcImgToSdc board call s)
    (prepared.calls ++ .opened targetFile :: guardClose (.handle targetFile))

/-- `handleSdToNandCopyOperation`, which has no guard. -/
def handleSdToNandCopyOperationCalls (card : Card) (call : NandCall) (s : NandState) : Outcome :=
  let prepared := prepareFilePtr .at91sam9g20Ek card call.fs s.engine .null
  if prepared.result ≠ .returnOk then some (prepared.result, prepared.calls)
  else returning (handleSdToNandCopyOperation card call s) prepared.calls

/-- `handleSdToNorCopyOperation`, called with what the uninitialised pointer holds. The guard takes the
    pointer before the result is looked at. -/
def handleSdToNorCopyOperationCalls (hal : NorHal) (card : Card) (call : NorCall) (s : NorState)
    (binaryFile : Pointer Nat) : Outcome :=
  if call.sdCardChangeOngoing then some (.returnFailed, [])
  else
    let prepared := prepareFilePtr .iobc card call.fs s.engine binaryFile
    let calls := prepared.calls ++ guardClose prepared.filePtr
    if prepared.result ≠ .returnOk then some (prepared.result, calls)
    else returning (handleSdToNorCopyOperation hal card call s) calls

/-- The state in which the step of `copyImgHammingSdcToFram` is entered. -/
def enterStep1 (s : HammingState) : HammingState :=
  if s.engine.internalState = .idle
    then { s with engine := { s.engine with internalState := .step1 } } else s

/-- `copyImgHammingSdcToFram`. A file that is not prepared is closed, then the guard takes the pointer. -/
def copyImgHammingSdcToFramCalls (card : Card) (call : HammingCall) (s : HammingState) : Outcome :=
  let s := enterStep1 s
  if s.engine.internalState = .step1 then
    if call.sdCardChangeOngoing then some (.returnFailed, [])
    else
      let prepared := prepareFilePtr .iobc card call.fs s.engine .null
      if prepared.result ≠ .returnOk then
        some (prepared.result, prepared.calls ++ [.closed prepared.filePtr])
      else returning (copyImgHammingSdcToFram card call s)
        (prepared.calls ++ guardClose prepared.filePtr)
  else some (.returnOk, [])

@[simp] theorem returning_fst {σ : Type} (result : Option (ReturnValue × σ)) (calls : List (Call Nat)) :
    (returning result calls).map Prod.fst = result.map Prod.fst := by
  cases result with
  | none => rfl
  | some r => rfl

/-- An outcome of an operation that makes the calls on each of its paths. -/
theorem calls_of_returning {σ : Type} {result : Option (ReturnValue × σ)} {calls calls' : List (Call Nat)}
    {r : ReturnValue} (h : returning result calls' = some (r, calls)) : calls = calls' := by
  obtain ⟨r', _, heq⟩ := Option.map_eq_some_iff.mp h
  exact (Prod.mk.inj heq).2.symm

/-- **`copySdcImgToSdcCalls` returns what `copySdcImgToSdc` returns.** -/
theorem copySdcImgToSdcCalls_fst (board : Board) (call : SdcCall) (s : SdcState) :
    (copySdcImgToSdcCalls board call s).map Prod.fst = (copySdcImgToSdc board call s).map Prod.fst := by
  unfold copySdcImgToSdcCalls
  rcases hprepare : prepareGenericFileInformation board s.card call.fs s.engine with ⟨r | file, e⟩
  · obtain ⟨hresult, hfailed⟩ := prepareFilePtr_error (.inl rfl) hprepare
    simp [hresult, hfailed, copySdcImgToSdc, hprepare]
  · have hresult := prepareFilePtr_ok (.inl rfl) hprepare
    by_cases htarget : call.openTargetFails = true
    · simp [hresult, htarget, copySdcImgToSdc, hprepare]
    · simp [hresult, htarget]

/-- **`handleSdToNandCopyOperationCalls` returns what `handleSdToNandCopyOperation` returns.** -/
theorem handleSdToNandCopyOperationCalls_fst (card : Card) (call : NandCall) (s : NandState) :
    (handleSdToNandCopyOperationCalls card call s).map Prod.fst =
      (handleSdToNandCopyOperation card call s).map Prod.fst := by
  unfold handleSdToNandCopyOperationCalls
  rcases hprepare : prepareGenericFileInformation .at91sam9g20Ek card call.fs s.engine with
    ⟨r | file, e⟩
  · obtain ⟨hresult, hfailed⟩ := prepareFilePtr_error (.inl rfl) hprepare
    simp [hresult, hfailed, handleSdToNandCopyOperation, hprepare]
  · simp [prepareFilePtr_ok (.inl rfl) hprepare]

/-- **`handleSdToNorCopyOperationCalls` returns what `handleSdToNorCopyOperation` returns**, as long as
    the pointer is not read before it is assigned. -/
theorem handleSdToNorCopyOperationCalls_fst (hal : NorHal) (card : Card) (call : NorCall) (s : NorState)
    {binaryFile : Pointer Nat} (h : binaryFile = .null ∨ genericFile .iobc s.engine ≠ none) :
    (handleSdToNorCopyOperationCalls hal card call s binaryFile).map Prod.fst =
      (handleSdToNorCopyOperation hal card call s).map Prod.fst := by
  unfold handleSdToNorCopyOperationCalls
  by_cases hchange : call.sdCardChangeOngoing = true
  · simp [hchange, handleSdToNorCopyOperation]
  · rcases hprepare : prepareGenericFileInformation .iobc card call.fs s.engine with ⟨r | file, e⟩
    · obtain ⟨hresult, hfailed⟩ := prepareFilePtr_error h hprepare
      simp [hchange, hresult, hfailed, handleSdToNorCopyOperation, hprepare]
    · simp [hchange, prepareFilePtr_ok h hprepare]

/-- No step is entered twice. -/
theorem enterStep1_ne_idle (s : HammingState) : (enterStep1 s).engine.internalState ≠ .idle := by
  unfold enterStep1
  by_cases hidle : s.engine.internalState = .idle
  · simp [hidle]
  · simp [hidle]

/-- The state in which the step is entered is as good as the one before. -/
theorem copyImgHammingSdcToFram_enterStep1 (card : Card) (call : HammingCall) (s : HammingState) :
    copyImgHammingSdcToFram card call (enterStep1 s) = copyImgHammingSdcToFram card call s := by
  by_cases hidle : s.engine.internalState = .idle
  · simp [copyImgHammingSdcToFram, enterStep1, hidle]
  · simp [enterStep1, hidle]

/-- **`copyImgHammingSdcToFramCalls` returns what `copyImgHammingSdcToFram` returns.** -/
theorem copyImgHammingSdcToFramCalls_fst (card : Card) (call : HammingCall) (s : HammingState) :
    (copyImgHammingSdcToFramCalls card call s).map Prod.fst =
      (copyImgHammingSdcToFram card call s).map Prod.fst := by
  rw [← copyImgHammingSdcToFram_enterStep1]
  unfold copyImgHammingSdcToFramCalls
  by_cases hstep : (enterStep1 s).engine.internalState = .step1
  · by_cases hchange : call.sdCardChangeOngoing = true
    · simp [hstep, hchange, copyImgHammingSdcToFram]
    · rcases hprepare : prepareGenericFileInformation .iobc card call.fs (enterStep1 s).engine with
        ⟨r | file, e⟩
      · obtain ⟨hresult, hfailed⟩ := prepareFilePtr_error (.inl rfl) hprepare
        simp [hstep, hchange, hresult, hfailed, copyImgHammingSdcToFram, hprepare]
      · simp [hstep, hchange, prepareFilePtr_ok (.inl rfl) hprepare]
  · simp [hstep, enterStep1_ne_idle, copyImgHammingSdcToFram]

/-! ## When what is opened is closed -/

/-- The operations that read or write a file, with what they are called with. -/
inductive FileOperation where
  | copySdcImgToSdc (board : Board) (call : SdcCall) (s : SdcState)
  | handleSdToNandCopyOperation (card : Card) (call : NandCall) (s : NandState)
  | handleSdToNorCopyOperation (hal : NorHal) (card : Card) (call : NorCall) (s : NorState)
      (binaryFile : Pointer Nat)
  | copyImgHammingSdcToFram (card : Card) (call : HammingCall) (s : HammingState)
  | readWholeFile (o : Sdc.Api.ReadWholeFileOutcome) (maxBufferSize : Nat)
  | createFile (o : Sdc.Api.CreateFileOutcome) (initialData : List UInt8)
  | getFileInfo (o : Sdc.Api.FileInfoOutcome)
  | lockFile (o : Sdc.Api.AttributeOutcome)
  | unlockFile (o : Sdc.Api.AttributeOutcome)
  | deleteFile (o : Sdc.Api.DirectoryOutcome)
  | createDirectory (o : Sdc.Api.DirectoryOutcome)
  | deleteDirectory (o : Sdc.Api.DirectoryOutcome)
  | deleteDirectoryForce (fuel : Nat) (dirname : String) (card : Sdc.ClearCard.CardTree)
  | clearSdCard (fuel : Nat) (card : Sdc.ClearCard.CardTree)

namespace FileOperation

/-- The calls an operation makes before it returns. -/
def calls : FileOperation → Option (List (Call Nat))
  | copySdcImgToSdc board call s => (copySdcImgToSdcCalls board call s).map Prod.snd
  | handleSdToNandCopyOperation card call s =>
    (handleSdToNandCopyOperationCalls card call s).map Prod.snd
  | handleSdToNorCopyOperation hal card call s binaryFile =>
    (handleSdToNorCopyOperationCalls hal card call s binaryFile).map Prod.snd
  | copyImgHammingSdcToFram card call s => (copyImgHammingSdcToFramCalls card call s).map Prod.snd
  | readWholeFile o maxBufferSize => some (Sdc.Api.readWholeFile o maxBufferSize).2
  | createFile o initialData => some (Sdc.Api.createFile o initialData).2
  | getFileInfo o => some (Sdc.Api.getFileInfo o).2
  | lockFile o => some (Sdc.Api.lockFile o).2
  | unlockFile o => some (Sdc.Api.unlockFile o).2
  | deleteFile o => some (Sdc.Api.deleteFile o).2
  | createDirectory o => some (Sdc.Api.createDirectory o).2
  | deleteDirectory o => some (Sdc.Api.deleteDirectory o).2
  -- these search and delete, and open no file
  | deleteDirectoryForce fuel dirname card =>
    (Sdc.ClearCard.deleteDirectoryForce (Sdc.ClearCard.deleteFileSystemObject fuel) dirname card).map
      fun _ => []
  | clearSdCard fuel card => (Sdc.ClearCard.clearSdCard fuel card).map fun _ => []

/-- The inputs on which an operation closes what it opens, and nothing else. -/
def Closes : FileOperation → Prop
  -- nothing closes a source file that has been prepared
  | copySdcImgToSdc board call s => ¬ PreparesFile board s.card call.fs s.engine
  | handleSdToNandCopyOperation card call s =>
    ¬ PreparesFile .at91sam9g20Ek card call.fs s.engine
  -- the guard closes what the pointer holds, whatever the preparation did
  | handleSdToNorCopyOperation _ card call s binaryFile =>
    call.sdCardChangeOngoing = false →
      (AssignsPointer .iobc call.fs s.engine ∨ binaryFile = .null) ∧
        (OpensFile .iobc card call.fs s.engine → call.fs.seek = 0)
  -- a preparation that fails leaves nothing to close
  | copyImgHammingSdcToFram card call s =>
    (s.engine.internalState = .idle ∨ s.engine.internalState = .step1) →
      call.sdCardChangeOngoing = false → PreparesFile .iobc card call.fs s.engine
  | readWholeFile o _ => o.changeDirectory = 0 → o.openError = 0 → o.filelength ≠ -1
  | getFileInfo o => o.changeDirectory = 0 → o.openError ≠ 0
  | createFile _ _ | lockFile _ | unlockFile _ | deleteFile _ | createDirectory _
  | deleteDirectory _ | deleteDirectoryForce _ _ _ | clearSdCard _ _ => True

end FileOperation

/-- A file that is opened more often than it is closed, or the other way round. -/
theorem not_disciplined {calls : List (Call Nat)} (file : Nat)
    (h : calls.count (.opened file) ≠ calls.count (.closed (.handle file))) : ¬ Disciplined calls :=
  fun hcalls => h (hcalls.count_eq file)

/-- A preparation that fails with a null pointer closes what it opened. -/
theorem prepareFilePtr_not_prepares (h : ¬ PreparesFile board card env e) :
    (prepareFilePtr board card env e .null).result ≠ .returnOk ∧
      Disciplined (prepareFilePtr board card env e .null).calls := by
  by_cases hopens : OpensFile board card env e
  · have hseek : env.seek ≠ 0 := fun hseek => h ⟨hopens, hseek⟩
    rw [prepareFilePtr_seekFails hopens hseek]
    exact ⟨by simp, disciplined_open_close sourceFile⟩
  · obtain ⟨r, hr, hprepared⟩ := prepareFilePtr_null_of_not_opens hopens
    rw [hprepared]
    exact ⟨hr, disciplined_nil⟩

/-- An operation that returns the failed preparation and its calls. -/
theorem disciplined_of_not_prepares {rest : Outcome} {r : ReturnValue} {calls : List (Call Nat)}
    (hprepares : ¬ PreparesFile board card env e)
    (h : (let prepared := prepareFilePtr board card env e .null
      if prepared.result ≠ .returnOk then some (prepared.result, prepared.calls) else rest) =
        some (r, calls)) : Disciplined calls := by
  obtain ⟨hresult, hcalls⟩ := prepareFilePtr_not_prepares hprepares
  dsimp only at h
  rw [if_pos hresult] at h
  obtain ⟨_, rfl⟩ := Prod.mk.inj (Option.some.inj h)
  exact hcalls

theorem copySdcImgToSdcCalls_disciplined_iff {call : SdcCall} {s : SdcState} {r : ReturnValue}
    {calls : List (Call Nat)} (h : copySdcImgToSdcCalls board call s = some (r, calls)) :
    Disciplined calls ↔ ¬ PreparesFile board s.card call.fs s.engine := by
  unfold copySdcImgToSdcCalls at h
  by_cases hprepares : PreparesFile board s.card call.fs s.engine
  · refine iff_of_false (not_disciplined sourceFile ?_) (not_not.mpr hprepares)
    simp only [prepareFilePtr_prepares hprepares, ne_eq, not_true_eq_false, if_false] at h
    by_cases htarget : call.openTargetFails = true
    · rw [if_pos htarget] at h
      obtain ⟨_, rfl⟩ := Prod.mk.inj (Option.some.inj h)
      decide
    · rw [if_neg htarget] at h
      obtain rfl := calls_of_returning h
      decide
  · exact iff_of_true (disciplined_of_not_prepares hprepares h) hprepares

theorem handleSdToNandCopyOperationCalls_disciplined_iff {call : NandCall} {s : NandState}
    {r : ReturnValue} {calls : List (Call Nat)}
    (h : handleSdToNandCopyOperationCalls card call s = some (r, calls)) :
    Disciplined calls ↔ ¬ PreparesFile .at91sam9g20Ek card call.fs s.engine := by
  unfold handleSdToNandCopyOperationCalls at h
  by_cases hprepares : PreparesFile .at91sam9g20Ek card call.fs s.engine
  · refine iff_of_false (not_disciplined sourceFile ?_) (not_not.mpr hprepares)
    simp only [prepareFilePtr_prepares hprepares, ne_eq, not_true_eq_false, if_false] at h
    obtain rfl := calls_of_returning h
    decide
  · exact iff_of_true (disciplined_of_not_prepares hprepares h) hprepares

theorem handleSdToNorCopyOperationCalls_calls {hal : NorHal} {call : NorCall} {s : NorState}
    {binaryFile : Pointer Nat} {r : ReturnValue} {calls : List (Call Nat)}
    (h : handleSdToNorCopyOperationCalls hal card call s binaryFile = some (r, calls))
    (hchange : call.sdCardChangeOngoing = false) :
    calls = (prepareFilePtr .iobc card call.fs s.engine binaryFile).calls ++
      guardClose (prepareFilePtr .iobc card call.fs s.engine binaryFile).filePtr := by
  unfold handleSdToNorCopyOperationCalls at h
  simp only [hchange, Bool.false_eq_true, if_false] at h
  by_cases hresult : (prepareFilePtr .iobc card call.fs s.engine binaryFile).result = .returnOk
  · rw [if_neg (not_not.mpr hresult)] at h
    exact calls_of_returning h
  · rw [if_pos hresult] at h
    exact (Prod.mk.inj (Option.some.inj h)).2.symm

theorem handleSdToNorCopyOperationCalls_disciplined_iff {hal : NorHal} {call : NorCall} {s : NorState}
    {binaryFile : Pointer Nat} {r : ReturnValue} {calls : List (Call Nat)}
    (h : handleSdToNorCopyOperationCalls hal card call s binaryFile = some (r, calls)) :
    Disciplined calls ↔ (call.sdCardChangeOngoing = false →
      (AssignsPointer .iobc call.fs s.engine ∨ binaryFile = .null) ∧
        (OpensFile .iobc card call.fs s.engine → call.fs.seek = 0)) := by
  by_cases hchange : call.sdCardChangeOngoing = false
  · obtain rfl := handleSdToNorCopyOperationCalls_calls h hchange
    by_cases hassigns : AssignsPointer .iobc call.fs s.engine
    · by_cases hopens : OpensFile .iobc card call.fs s.engine
      · by_cases hseek : call.fs.seek = 0
        · rw [prepareFilePtr_prepares ⟨hopens, hseek⟩]
          refine iff_of_true ?_ fun _ => ⟨.inl hassigns, fun _ => hseek⟩
          exact disciplined_open_close sourceFile
        · rw [prepareFilePtr_seekFails hopens hseek]
          refine iff_of_false ?_ fun hcloses => hseek ((hcloses hchange).2 hopens)
          exact (disciplined_open_close sourceFile).not_append_closed _
      · rw [prepareFilePtr_openFails hassigns hopens]
        exact iff_of_true disciplined_nil fun _ => ⟨.inl hassigns, fun h => absurd h hopens⟩
    · obtain ⟨r', calls, hprepared, hnot, hnullCalls⟩ :=
        prepareFilePtr_unassigned card hassigns binaryFile
      rw [hprepared]
      by_cases hnull : binaryFile = .null
      · obtain ⟨_, rfl⟩ := hnullCalls hnull
        subst hnull
        exact iff_of_true disciplined_nil
          fun _ => ⟨.inr rfl, fun hopens => absurd hopens.assigns hassigns⟩
      · -- the guard closes what the stack held
        refine iff_of_false ?_ fun hcloses => (hcloses hchange).1.elim hassigns hnull
        rw [guardClose_of_ne_null hnull]
        intro hcalls
        obtain ⟨file, _, hopened⟩ := hcalls.exists_of_closed (List.mem_append_right _
          (List.mem_singleton_self _))
        rcases List.mem_append.mp hopened with hopened | hopened
        · exact hnot file hopened
        · simp at hopened
  · unfold handleSdToNorCopyOperationCalls at h
    rw [if_pos (by simpa using hchange)] at h
    obtain ⟨_, rfl⟩ := Prod.mk.inj (Option.some.inj h)
    exact iff_of_true disciplined_nil fun h => absurd h hchange

theorem enterStep1_step1_iff {s : HammingState} :
    (enterStep1 s).engine.internalState = .step1 ↔
      s.engine.internalState = .idle ∨ s.engine.internalState = .step1 := by
  unfold enterStep1
  by_cases hidle : s.engine.internalState = .idle
  · simp [hidle]
  · simp [hidle]

/-- Entering the step does not change the file. -/
theorem preparesFile_enterStep1 {s : HammingState} :
    PreparesFile board card env (enterStep1 s).engine ↔ PreparesFile board card env s.engine := by
  have hfile : genericFile board (enterStep1 s).engine = genericFile board s.engine := by
    unfold enterStep1
    split_ifs <;> rfl
  constructor
  · rintro ⟨⟨⟨hdirectory, hassigned⟩, hopens, hexists⟩, hseek⟩
    exact ⟨⟨⟨hdirectory, hfile ▸ hassigned⟩, hopens, hfile ▸ hexists⟩, hseek⟩
  · rintro ⟨⟨⟨hdirectory, hassigned⟩, hopens, hexists⟩, hseek⟩
    exact ⟨⟨⟨hdirectory, hfile ▸ hassigned⟩, hopens, hfile ▸ hexists⟩, hseek⟩

theorem copyImgHammingSdcToFramCalls_disciplined_iff {call : HammingCall} {s : HammingState}
    {r : ReturnValue} {calls : List (Call Nat)}
    (h : copyImgHammingSdcToFramCalls card call s = some (r, calls)) :
    Disciplined calls ↔
      ((s.engine.internalState = .idle ∨ s.engine.internalState = .step1) →
        call.sdCardChangeOngoing = false → PreparesFile .iobc card call.fs s.engine) := by
  unfold copyImgHammingSdcToFramCalls at h
  by_cases hstep : (enterStep1 s).engine.internalState = .step1
  · have hentered := enterStep1_step1_iff.mp hstep
    simp only [hstep, if_true] at h
    by_cases hchange : call.sdCardChangeOngoing = true
    · rw [if_pos hchange] at h
      obtain ⟨_, rfl⟩ := Prod.mk.inj (Option.some.inj h)
      exact iff_of_true disciplined_nil fun _ hnot => absurd hchange (by simp [hnot])
    · rw [if_neg hchange] at h
      by_cases hprepares : PreparesFile .iobc card call.fs (enterStep1 s).engine
      · simp only [prepareFilePtr_prepares hprepares, ne_eq, not_true_eq_false, if_false] at h
        obtain rfl := calls_of_returning h
        exact iff_of_true (disciplined_open_close sourceFile)
          fun _ _ => preparesFile_enterStep1.mp hprepares
      · obtain ⟨hresult, hcalls⟩ := prepareFilePtr_not_prepares hprepares
        simp only [ne_eq, hresult, not_false_eq_true, if_true] at h
        obtain ⟨_, rfl⟩ := Prod.mk.inj (Option.some.inj h)
        refine iff_of_false (hcalls.not_append_closed _) fun hcloses => ?_
        exact hprepares (preparesFile_enterStep1.mpr (hcloses hentered (by simpa using hchange)))
  · simp only [hstep, if_false] at h
    obtain ⟨_, rfl⟩ := Prod.mk.inj (Option.some.inj h)
    exact iff_of_true disciplined_nil
      fun hentered => absurd (enterStep1_step1_iff.mpr hentered) hstep

/-- `get_file_info` cannot close what it has opened. -/
theorem getFileInfo_disciplined_iff (o : Sdc.Api.FileInfoOutcome) :
    Disciplined (Sdc.Api.getFileInfo o).2 ↔ (o.changeDirectory = 0 → o.openError ≠ 0) := by
  unfold Sdc.Api.getFileInfo
  by_cases hdirectory : o.changeDirectory = 0
  · by_cases hopens : o.openError = 0
    · refine iff_of_false ?_ (by simp [hdirectory, hopens])
      simp only [hdirectory, hopens, ne_eq, not_true_eq_false, if_false]
      exact not_disciplined Sdc.Api.file (by decide)
    · simp [hdirectory, hopens, disciplined_nil]
  · simp [hdirectory, disciplined_nil]

/-- `read_whole_file` returns in between when the length cannot be found. -/
theorem readWholeFile_disciplined_iff (o : Sdc.Api.ReadWholeFileOutcome) (maxBufferSize : Nat) :
    Disciplined (Sdc.Api.readWholeFile o maxBufferSize).2 ↔
      (o.changeDirectory = 0 → o.openError = 0 → o.filelength ≠ -1) := by
  unfold Sdc.Api.readWholeFile
  by_cases hdirectory : o.changeDirectory = 0
  · by_cases hopens : o.openError = 0
    · by_cases hlength : o.filelength = -1
      · refine iff_of_false ?_ (by simp [hdirectory, hopens, hlength])
        simp only [hdirectory, hopens, hlength, ne_eq, not_true_eq_false, if_false, if_true]
        exact not_disciplined Sdc.Api.file (by decide)
      · simp [hdirectory, hopens, hlength, disciplined_open_close]
    · simp [hdirectory, hopens, disciplined_nil]
  · simp [hdirectory, disciplined_nil]

/-- `create_file` closes the file whatever is written. -/
theorem createFile_disciplined (o : Sdc.Api.CreateFileOutcome) (initialData : List UInt8) :
    Disciplined (Sdc.Api.createFile o initialData).2 := by
  unfold Sdc.Api.createFile
  split_ifs
  · exact disciplined_nil
  · exact disciplined_nil
  · exact disciplined_nil
  · exact disciplined_open_close Sdc.Api.file

/-- **An operation that returns has closed each file it opened once, and nothing else, on these inputs
    only.** -/
theorem FileOperation.disciplined_iff {operation : FileOperation} {calls : List (Call Nat)}
    (h : operation.calls = some calls) : Disciplined calls ↔ operation.Closes := by
  cases operation with
  | copySdcImgToSdc board call s =>
      obtain ⟨⟨r, _⟩, hcalls, rfl⟩ := Option.map_eq_some_iff.mp h
      exact copySdcImgToSdcCalls_disciplined_iff hcalls
  | handleSdToNandCopyOperation card call s =>
      obtain ⟨⟨r, _⟩, hcalls, rfl⟩ := Option.map_eq_some_iff.mp h
      exact handleSdToNandCopyOperationCalls_disciplined_iff hcalls
  | handleSdToNorCopyOperation hal card call s binaryFile =>
      obtain ⟨⟨r, _⟩, hcalls, rfl⟩ := Option.map_eq_some_iff.mp h
      exact handleSdToNorCopyOperationCalls_disciplined_iff hcalls
  | copyImgHammingSdcToFram card call s =>
      obtain ⟨⟨r, _⟩, hcalls, rfl⟩ := Option.map_eq_some_iff.mp h
      exact copyImgHammingSdcToFramCalls_disciplined_iff hcalls
  | readWholeFile o maxBufferSize =>
      obtain rfl := Option.some.inj h
      exact readWholeFile_disciplined_iff o maxBufferSize
  | createFile o initialData =>
      obtain rfl := Option.some.inj h
      exact iff_of_true (createFile_disciplined o initialData) trivial
  | getFileInfo o =>
      obtain rfl := Option.some.inj h
      exact getFileInfo_disciplined_iff o
  | lockFile o =>
      obtain rfl := Option.some.inj h
      exact iff_of_true disciplined_nil trivial
  | unlockFile o =>
      obtain rfl := Option.some.inj h
      exact iff_of_true disciplined_nil trivial
  | deleteFile o =>
      obtain rfl := Option.some.inj h
      exact iff_of_true disciplined_nil trivial
  | createDirectory o =>
      obtain rfl := Option.some.inj h
      exact iff_of_true disciplined_nil trivial
  | deleteDirectory o =>
      obtain rfl := Option.some.inj h
      exact iff_of_true disciplined_nil trivial
  | deleteDirectoryForce fuel dirname card =>
      obtain ⟨_, _, rfl⟩ := Option.map_eq_some_iff.mp h
      exact iff_of_true disciplined_nil trivial
  | clearSdCard fuel card =>
      obtain ⟨_, _, rfl⟩ := Option.map_eq_some_iff.mp h
      exact iff_of_true disciplined_nil trivial

/-- A copy whose target cannot be opened, on a card with the image of slot 0. -/
theorem copySdcImgToSdc_targetFails :
    (FileOperation.copySdcImgToSdc .iobc ⟨quietFs, false, true, []⟩
        ⟨startSdcCopy .sdcSlot0 initial, cardWith (swRepository, swSlot0Name) ⟨[1], by decide⟩⟩).calls =
      some [.opened sourceFile] ∧
    (Disciplined [.opened sourceFile] ↔
      (FileOperation.copySdcImgToSdc .iobc ⟨quietFs, false, true, []⟩
        ⟨startSdcCopy .sdcSlot0 initial,
          cardWith (swRepository, swSlot0Name) ⟨[1], by decide⟩⟩).Closes) :=
  ⟨by decide, FileOperation.disciplined_iff (by decide)⟩

/-- `get_file_info` leaves its file open although every call succeeds. -/
theorem getFileInfo_leaves_open :
    (FileOperation.getFileInfo ⟨0, 0, 0⟩).calls = some [.opened Sdc.Api.file] ∧
      ¬ Disciplined [.opened Sdc.Api.file] := by
  refine ⟨rfl, ?_⟩
  decide

end FileHandles
end Engine
end Obsw
