import Obsw.Lib.Loop
import Obsw.Sdc.Completion
import Obsw.SdCard

/-!
# `Sdc.CopyFile` — copying a file in the SD card handler's state machine

`SDCHStateMachine`. A copy is split over calls of `continueCurrentOperation`, each of which opens both
files, seeks the source to the byte index reached so far and goes on. Whether the target is opened for
appending depends on a step counter that is never counted up, so each call takes itself for the first
one and empties the target.
-/

namespace Obsw
namespace Sdc
namespace CopyFile

open Loop

/-! ## `SDCHStateMachine` -/

inductive States where
  | idle
  | splittingFile
  | copyFile
  | moveFile
  deriving DecidableEq, Repr

/-- The members of the state machine. -/
structure SDCHStateMachine where
  internalState : States
  currentRecipient : MessageQueueId
  path1 : String
  fileName1 : String
  path2 : String
  fileName2 : String
  currentByteIdx : Nat
  currentFileSize : Nat
  stepCounter : Nat
  deriving DecidableEq, Repr

/-- What `continueCurrentOperation` returns. -/
inductive Result where
  | returnOk
  | returnFailed
  | taskPeriodOverSoon
  | operationFinished
  deriving DecidableEq, Repr

/-- `fileBuffer.size()`. -/
def fileBufferSize : Nat := 8 * 1024

namespace SDCHStateMachine

/-- The state machine as it is constructed. -/
def initial : SDCHStateMachine := ⟨.idle, noQueue, "", "", "", "", 0, 0, 0⟩

/-- The file to copy. -/
def source (m : SDCHStateMachine) : Path := (m.path1, m.fileName1)

/-- The file to copy it to. -/
def target (m : SDCHStateMachine) : Path := (m.path2, m.fileName2)

/-- `resetAndSetToIdle`. -/
def resetAndSetToIdle (m : SDCHStateMachine) : SDCHStateMachine :=
  { m with
    internalState := .idle
    path1 := ""
    fileName1 := ""
    path2 := ""
    fileName2 := ""
    currentByteIdx := 0
    currentFileSize := 0
    stepCounter := 0
    currentRecipient := noQueue }

/-- `setCopyFileOperation`. The paths and the recipient are set even if it refuses. -/
def setCopyFileOperation (m : SDCHStateMachine) (sourceRepo sourceName targetRepo targetName : String)
    (recipient : MessageQueueId) : Bool × SDCHStateMachine :=
  let m := { m with
    path1 := sourceRepo
    fileName1 := sourceName
    path2 := targetRepo
    fileName2 := targetName
    currentRecipient := recipient }
  if m.internalState ≠ .idle then (false, m)
  else (true, { m with currentByteIdx := 0, stepCounter := 0, internalState := .copyFile })

end SDCHStateMachine

/-! ## `handleGenericCopyOperation` -/

/-- One pass of the copy loop: the most `f_read` delivers and `f_write` accepts, `f_getlasterror`, and
    the countdown. -/
structure CopyPass where
  readGot : Nat
  accepted : Nat
  lastError : Nat
  timedOut : Bool

/-- What a call of `handleGenericCopyOperation` meets. -/
structure CopyCall where
  changeSource : Int
  /-- `f_filelength` returns a negative value -/
  lengthFails : Bool
  /-- `f_open` fails although the source file exists -/
  openSourceFails : Bool
  seek : Int
  changeTarget : Int
  /-- the `f_open` that looks whether the target exists finds no file although there is one -/
  probeFails : Bool
  openTargetFails : Bool
  lastError : Nat
  passes : List CopyPass

theorem noBytes_length_lt : ([] : List UInt8).length < 2 ^ 31 := by decide

/-- `f_open` for writing empties the file or creates it. -/
def fOpenWrite (card : Card) (path : Path) : Card := card.set path (some ⟨[], noBytes_length_lt⟩)

/-- The file size is read while the step counter is 0. -/
def cacheFileSize (card : Card) (m : SDCHStateMachine) : SDCHStateMachine :=
  if m.stepCounter = 0 then { m with currentFileSize := fFilelength card m.source } else m

/-- `prepareCopyFileInformation`: the opened file, positioned at the current byte index, if all went
    well, and the state machine. -/
def prepareCopyFileInformation (call : CopyCall) (card : Card) (m : SDCHStateMachine) :
    Option FFile × SDCHStateMachine :=
  if call.changeSource ≠ 0 then (none, m)
  else if m.stepCounter = 0 ∧ call.lengthFails then (none, m)
  else
    let m := cacheFileSize card m
    if call.openSourceFails ∨ card m.source = none then (none, m)
    else if call.seek ≠ 0 then (none, m)
    else (some ⟨fileBytes card m.source, m.currentByteIdx⟩, m)

/-- The card when the target is open: the first call empties a target that it finds. -/
def openTarget (call : CopyCall) (card : Card) (m : SDCHStateMachine) : Card :=
  if m.stepCounter = 0 then
    if call.probeFails ∨ card m.target = none then fOpenAppend card m.target
    else fOpenWrite card m.target
  else fOpenAppend card m.target

/-- The state of the copy loop. -/
structure CopyLoop where
  readFile : FFile
  machine : SDCHStateMachine
  card : Card

/-- The size of the next part. -/
def CopyLoop.sizeToCopy (s : CopyLoop) : Nat :=
  if fileBufferSize < s.machine.currentFileSize - s.machine.currentByteIdx then fileBufferSize
  else s.machine.currentFileSize - s.machine.currentByteIdx

/-- What a call returns and the messages it sends. -/
abbrev Outcome := Result × List CompletionMessage

/-- A failure of the copy that is reported. -/
def failCopy (m : SDCHStateMachine) (errorCode : Code) (errorParam : Nat) : Outcome :=
  (.returnFailed, [⟨false, m.currentRecipient, some errorCode, errorParam⟩])

/-- One pass of the copy loop. -/
def copyPass (pass : CopyPass) (s : CopyLoop) : Option (Flow Outcome CopyLoop) :=
  let read := fRead s.readFile s.sizeToCopy pass.readGot
  if read.1.length ≠ s.sizeToCopy then
    some (.ret (failCopy s.machine .genericFileError pass.lastError) { s with readFile := read.2 })
  else
    let card := fWrite s.card s.machine.target read.1 pass.accepted
    if min s.sizeToCopy pass.accepted ≠ s.sizeToCopy then
      some (.ret (failCopy s.machine .genericFileError pass.lastError)
        { s with readFile := read.2, card := card })
    else
      let s := { readFile := read.2
                 machine := { s.machine with
                   currentByteIdx := s.machine.currentByteIdx + s.sizeToCopy }
                 card := card }
      if pass.timedOut then some (.ret (.taskPeriodOverSoon, []) s) else some (.next s)

/-- Something is left to copy. -/
def copyGoesOn (s : CopyLoop) : Bool :=
  decide (s.machine.currentByteIdx < s.machine.currentFileSize)

/-- `handleGenericCopyOperation`. The success is sent when the recipient has been reset. -/
def handleGenericCopyOperation (call : CopyCall) (m : SDCHStateMachine) (card : Card) :
    Option (Outcome × SDCHStateMachine × Card) :=
  match prepareCopyFileInformation call card m with
  | (none, m) => some ((.returnFailed, []), m, card)
  | (some readFile, m) =>
    if call.changeTarget ≠ 0 then some (failCopy m .directoryDoesNotExist 0, m, card)
    else if call.openTargetFails then some (failCopy m .genericFileError call.lastError, m, card)
    else
      match whileLoop copyGoesOn copyPass call.passes ⟨readFile, m, openTarget call card m⟩ with
      | none => none
      | some (.ret outcome s) => some (outcome, s.machine, s.card)
      | some (.next s) =>
        let m := s.machine.resetAndSetToIdle
        some ((.operationFinished, [⟨true, m.currentRecipient, none, 0⟩]), m, s.card)

/-- `continueCurrentOperation`. -/
def continueCurrentOperation (call : CopyCall) (m : SDCHStateMachine) (card : Card) :
    Option (Outcome × SDCHStateMachine × Card) :=
  match m.internalState with
  | .copyFile => handleGenericCopyOperation call m card
  | .idle | .splittingFile | .moveFile => some ((.returnOk, []), m, card)

/-! ## A copy, call by call -/

/-- One call: the operation goes on in another one, or it has ended. -/
def copyCall (call : CopyCall) (s : SDCHStateMachine × Card) :
    Option (Flow Outcome (SDCHStateMachine × Card)) :=
  match continueCurrentOperation call s.1 s.2 with
  | none => none
  | some ((.taskPeriodOverSoon, _), s) => some (.next s)
  | some (outcome, s) => some (.ret outcome s)

/-- `continueCurrentOperation` is called until the operation ends. -/
def copyRun (calls : List CopyCall) (s : SDCHStateMachine × Card) :
    Option (Outcome × SDCHStateMachine × Card) :=
  match whileLoop (fun _ => true) copyCall calls s with
  | some (.ret outcome s) => some (outcome, s)
  | _ => none

/-- Every call of the file system succeeds, and reads and writes are complete. -/
structure AllSucceed (call : CopyCall) : Prop where
  changeSource : call.changeSource = 0
  length : call.lengthFails = false
  openSource : call.openSourceFails = false
  seek : call.seek = 0
  changeTarget : call.changeTarget = 0
  probe : call.probeFails = false
  openTarget : call.openTargetFails = false
  passes : ∀ pass ∈ call.passes, fileBufferSize ≤ pass.readGot ∧ fileBufferSize ≤ pass.accepted

/-- The number of passes for some bytes. -/
def passCount (size : Nat) : Nat := (size + (fileBufferSize - 1)) / fileBufferSize

/-- The first call makes all its passes within its time. -/
def NotInterrupted (calls : List CopyCall) (size : Nat) : Prop :=
  ∀ call ∈ calls.head?, ∀ pass ∈ call.passes.take (passCount size), pass.timedOut = false

/-! ## The passes of a call -/

section Copying

variable (file : SdFile) (source target : Path) (start : Nat)

/-- A machine that copies a file over another one. -/
structure Copies (m : SDCHStateMachine) (card : Card) : Prop where
  state : m.internalState = .copyFile
  sourcePath : m.source = source
  targetPath : m.target = target
  counter : m.stepCounter = 0
  idx : m.currentByteIdx ≤ file.bytes.length
  sourceFile : card source = some file

/-- The invariant of the copy loop in a call that goes on at `start`: the target has the bytes of the
    source from there on, as far as the loop has come. -/
structure InLoop (s : CopyLoop) : Prop where
  copies : Copies file source target s.machine s.card
  size : s.machine.currentFileSize = file.bytes.length
  from_start : start ≤ s.machine.currentByteIdx
  readFile : s.readFile = ⟨file.bytes, s.machine.currentByteIdx⟩
  opened : s.card target ≠ none
  copied : fileBytes s.card target =
    (file.bytes.drop start).take (s.machine.currentByteIdx - start)

variable {file source target start}

theorem sizeToCopy_eq (s : CopyLoop) :
    s.sizeToCopy = min fileBufferSize (s.machine.currentFileSize - s.machine.currentByteIdx) := by
  unfold CopyLoop.sizeToCopy
  split_ifs <;> omega

/-- The state behind a complete pass. -/
def CopyLoop.advance (s : CopyLoop) (pass : CopyPass) : CopyLoop :=
  { readFile := (fRead s.readFile s.sizeToCopy pass.readGot).2
    machine := { s.machine with currentByteIdx := s.machine.currentByteIdx + s.sizeToCopy }
    card := fWrite s.card s.machine.target (fRead s.readFile s.sizeToCopy pass.readGot).1
      pass.accepted }

/-- A pass with a complete read and a complete write goes on with the next part. -/
theorem copyPass_complete {pass : CopyPass} {s : CopyLoop}
    (hread : (fRead s.readFile s.sizeToCopy pass.readGot).1.length = s.sizeToCopy)
    (hwrite : s.sizeToCopy ≤ pass.accepted) :
    copyPass pass s = some (if pass.timedOut then .ret (.taskPeriodOverSoon, []) (s.advance pass)
      else .next (s.advance pass)) := by
  unfold copyPass
  rw [if_neg (not_not.mpr hread), if_neg (not_not.mpr (Nat.min_eq_left hwrite)), apply_ite some]
  rfl

theorem InLoop.read_length {s : CopyLoop} (h : InLoop file source target start s) {pass : CopyPass}
    (hgot : fileBufferSize ≤ pass.readGot) :
    (fRead s.readFile s.sizeToCopy pass.readGot).1.length = s.sizeToCopy := by
  have hsize := sizeToCopy_eq s
  have hidx := h.copies.idx
  rw [h.size] at hsize
  apply fRead_length (by omega)
  rw [h.readFile]
  dsimp only
  omega

/-- What a pass reads are the bytes of the source behind the byte index. -/
theorem InLoop.read_bytes {s : CopyLoop} (h : InLoop file source target start s) {pass : CopyPass}
    (hgot : fileBufferSize ≤ pass.readGot) :
    (fRead s.readFile s.sizeToCopy pass.readGot).1 =
      (file.bytes.drop s.machine.currentByteIdx).take s.sizeToCopy := by
  rw [fRead_complete (Nat.le_of_eq (h.read_length hgot).symm), h.readFile]

theorem InLoop.advance {s : CopyLoop} (h : InLoop file source target start s) {pass : CopyPass}
    (hne : source ≠ target) (hgot : fileBufferSize ≤ pass.readGot)
    (haccepted : fileBufferSize ≤ pass.accepted) :
    InLoop file source target start (s.advance pass) := by
  have hsize := sizeToCopy_eq s
  have hidx := h.copies.idx
  rw [h.size] at hsize
  have hstart := h.from_start
  have hlength := h.read_length hgot
  have hread := h.read_bytes hgot
  -- the part that is read continues what the target has
  have hbytes : fileBytes (s.advance pass).card target =
      (file.bytes.drop start).take (s.machine.currentByteIdx + s.sizeToCopy - start) := by
    have hsplit : s.machine.currentByteIdx + s.sizeToCopy - start =
        (s.machine.currentByteIdx - start) + s.sizeToCopy := by omega
    have hlt : (fileBytes s.card target ++
        (fRead s.readFile s.sizeToCopy pass.readGot).1).length < 2 ^ 31 := by
      have := file.length_lt
      rw [List.length_append, hlength, h.copied, List.length_take, List.length_drop]
      omega
    show fileBytes (fWrite s.card s.machine.target _ pass.accepted) target = _
    rw [h.copies.targetPath, fileBytes_fWrite h.opened (by omega) hlt, h.copied, hread, hsplit,
      List.take_add, List.drop_drop]
    congr 3
    omega
  refine ⟨⟨h.copies.state, h.copies.sourcePath, h.copies.targetPath, h.copies.counter, ?_, ?_⟩,
    h.size, ?_, ?_, ?_, hbytes⟩
  · show s.machine.currentByteIdx + s.sizeToCopy ≤ file.bytes.length
    omega
  · show fWrite s.card s.machine.target _ _ source = some file
    rw [h.copies.targetPath, fWrite_other _ _ hne, h.copies.sourceFile]
  · show start ≤ s.machine.currentByteIdx + s.sizeToCopy
    omega
  · show (fRead s.readFile s.sizeToCopy pass.readGot).2 =
      ⟨file.bytes, s.machine.currentByteIdx + s.sizeToCopy⟩
    rw [fRead_file, hlength, h.readFile]
  · show fWrite s.card s.machine.target _ _ target ≠ none
    rw [h.copies.targetPath]
    exact fWrite_exists _ _ h.opened

/-- How the copy loop ends: all is copied and no pass was interrupted, or an interrupted pass leaves the
    rest to another call. -/
inductive LoopEnds (file : SdFile) (source target : Path) (start : Nat) (passes : List CopyPass)
    (s : CopyLoop) : Flow Outcome CopyLoop → Prop where
  | done (s' : CopyLoop) (hloop : InLoop file source target start s')
      (hall : s'.machine.currentByteIdx = file.bytes.length)
      (hnever : ∀ pass ∈ passes.take (passCount (file.bytes.length - s.machine.currentByteIdx)),
        pass.timedOut = false) :
      LoopEnds file source target start passes s (.next s')
  | interrupted (s' : CopyLoop) (hloop : InLoop file source target start s')
      (hmore : s.machine.currentByteIdx < s'.machine.currentByteIdx)
      (htimeout : ∃ pass ∈
        passes.take (passCount (file.bytes.length - s.machine.currentByteIdx)), pass.timedOut = true) :
      LoopEnds file source target start passes s (.ret (.taskPeriodOverSoon, []) s')

/-- A pass makes one part of what is left. -/
theorem InLoop.passCount_advance {s : CopyLoop} (h : InLoop file source target start s)
    (pass : CopyPass) (hlt : s.machine.currentByteIdx < file.bytes.length) :
    passCount (file.bytes.length - s.machine.currentByteIdx) =
      passCount (file.bytes.length - (s.advance pass).machine.currentByteIdx) + 1 := by
  have hsize := sizeToCopy_eq s
  rw [h.size] at hsize
  simp only [passCount, CopyLoop.advance, fileBufferSize] at hsize ⊢
  omega

/-- The copy loop, whose schedule of passes it is an induction on. -/
theorem copyLoop_ends (hne : source ≠ target) {passes : List CopyPass}
    (hpasses : ∀ pass ∈ passes, fileBufferSize ≤ pass.readGot ∧ fileBufferSize ≤ pass.accepted) :
    ∀ {s : CopyLoop} {flow : Flow Outcome CopyLoop}, InLoop file source target start s →
      whileLoop copyGoesOn copyPass passes s = some flow →
      LoopEnds file source target start passes s flow := by
  induction passes with
  | nil =>
      intro s flow h hrun
      by_cases hlt : s.machine.currentByteIdx < s.machine.currentFileSize
      · simp [whileLoop, copyGoesOn, hlt] at hrun
      · have hidx := h.copies.idx
        rw [h.size] at hlt
        rw [whileLoop_exit (by simpa [copyGoesOn, h.size] using hlt)] at hrun
        cases hrun
        exact .done s h (by omega) (by simp)
  | cons pass passes ih =>
      intro s flow h hrun
      obtain ⟨hgot, haccepted⟩ := hpasses pass List.mem_cons_self
      by_cases hlt : s.machine.currentByteIdx < file.bytes.length
      · have hcond : copyGoesOn s = true := by simpa [copyGoesOn, h.size] using hlt
        have hnext := h.advance hne hgot haccepted
        have hsize := sizeToCopy_eq s
        rw [h.size] at hsize
        have hmore : s.machine.currentByteIdx < (s.advance pass).machine.currentByteIdx := by
          simp only [CopyLoop.advance, hsize, fileBufferSize]
          omega
        have hcount := h.passCount_advance pass hlt
        have hpass := copyPass_complete (h.read_length hgot) (by omega)
        -- the pass counts before its time is looked at
        by_cases htimedOut : pass.timedOut = true
        · rw [if_pos htimedOut] at hpass
          rw [whileLoop_ret hcond hpass] at hrun
          cases hrun
          refine .interrupted _ hnext hmore ⟨pass, ?_, htimedOut⟩
          rw [hcount]
          exact List.mem_cons_self
        · rw [if_neg htimedOut] at hpass
          rw [whileLoop_next hcond hpass] at hrun
          have hrest := ih (fun pass' hmem => hpasses pass' (List.mem_cons_of_mem _ hmem)) hnext hrun
          cases hrest with
          | done s' hloop hall hnever =>
              refine .done s' hloop hall ?_
              rw [hcount, List.take_succ_cons]
              intro pass' hmem
              rcases List.mem_cons.mp hmem with rfl | hmem
              · simpa using htimedOut
              · exact hnever pass' hmem
          | interrupted s' hloop hmore' htimeout =>
              obtain ⟨pass', hmem, hpass'⟩ := htimeout
              refine .interrupted s' hloop (by omega) ⟨pass', ?_, hpass'⟩
              rw [hcount, List.take_succ_cons]
              exact List.mem_cons_of_mem _ hmem
      · rw [whileLoop_exit (by simpa [copyGoesOn, h.size] using hlt)] at hrun
        cases hrun
        have hidx := h.copies.idx
        have hzero : passCount (file.bytes.length - s.machine.currentByteIdx) = 0 := by
          simp only [passCount, fileBufferSize]
          omega
        exact .done s h (by omega) (by simp [hzero])

/-- A schedule with a pass for each part lets the copy loop end. -/
theorem copyLoop_returns (hne : source ≠ target) {passes : List CopyPass}
    (hpasses : ∀ pass ∈ passes, fileBufferSize ≤ pass.readGot ∧ fileBufferSize ≤ pass.accepted)
    {s : CopyLoop} (h : InLoop file source target start s)
    (hcount : passCount (file.bytes.length - s.machine.currentByteIdx) ≤ passes.length) :
    ∃ flow, whileLoop copyGoesOn copyPass passes s = some flow := by
  have htotal := whileLoop_total (I := InLoop file source target start) (Q := fun _ _ => True)
    copyGoesOn copyPass passes (fun s => passCount (file.bytes.length - s.machine.currentByteIdx))
    (fun s hloop hmore => by
      have hlt : s.machine.currentByteIdx < file.bytes.length := by
        simpa [copyGoesOn, hloop.size] using hmore
      rw [hloop.passCount_advance ⟨0, 0, 0, false⟩ hlt]
      exact Nat.succ_pos _)
    (fun pass hmem s hloop hmore => by
      obtain ⟨hgot, haccepted⟩ := hpasses pass hmem
      have hlt : s.machine.currentByteIdx < file.bytes.length := by
        simpa [copyGoesOn, hloop.size] using hmore
      have hsize := sizeToCopy_eq s
      have hpass := copyPass_complete (hloop.read_length hgot) (by omega)
      by_cases htimedOut : pass.timedOut = true
      · rw [if_pos htimedOut] at hpass
        exact .inr ⟨_, _, hpass, trivial⟩
      · rw [if_neg htimedOut] at hpass
        refine .inl ⟨_, hpass, hloop.advance hne hgot haccepted, ?_⟩
        rw [hloop.passCount_advance pass hlt]
        exact Nat.lt_succ_self _)
    s h hcount
  rcases htotal with ⟨s', hloop, _⟩ | ⟨_, _, hloop, _⟩
  · exact ⟨_, hloop⟩
  · exact ⟨_, hloop⟩

/-! ## A call -/

/-- How a call ends: the target has the bytes behind those copied in earlier calls and no others, or
    another call goes on. -/
inductive CallEnds (file : SdFile) (source target : Path) (call : CopyCall) (m : SDCHStateMachine) :
    Outcome × SDCHStateMachine × Card → Prop where
  | finished (messages : List CompletionMessage) (m' : SDCHStateMachine) (card : Card)
      (hopened : card target ≠ none)
      (hbytes : fileBytes card target = file.bytes.drop m.currentByteIdx)
      (hnever : ∀ pass ∈ call.passes.take (passCount (file.bytes.length - m.currentByteIdx)),
        pass.timedOut = false) :
      CallEnds file source target call m ((.operationFinished, messages), m', card)
  | interrupted (m' : SDCHStateMachine) (card : Card) (hcopies : Copies file source target m' card)
      (hmore : m.currentByteIdx < m'.currentByteIdx)
      (htimeout : ∃ pass ∈ call.passes.take (passCount (file.bytes.length - m.currentByteIdx)),
        pass.timedOut = true) :
      CallEnds file source target call m ((.taskPeriodOverSoon, []), m', card)

/-- Every call finds a step counter of 0, and empties or creates the target. -/
theorem Copies.openTarget {call : CopyCall} {m : SDCHStateMachine} {card : Card}
    (h : Copies file source target m card) (hprobe : call.probeFails = false) (hne : source ≠ target) :
    CopyFile.openTarget call card m target ≠ none ∧
      fileBytes (CopyFile.openTarget call card m) target = [] ∧
      CopyFile.openTarget call card m source = some file := by
  unfold CopyFile.openTarget
  rw [if_pos h.counter, h.targetPath]
  by_cases hnone : card target = none
  · rw [if_pos (.inr hnone), fileBytes_fOpenAppend, fOpenAppend_other hne]
    exact ⟨fOpenAppend_exists card target, by simp [fileBytes, hnone], h.sourceFile⟩
  · rw [if_neg (by simp [hprobe, hnone]), fOpenWrite, Card.set_other _ hne]
    exact ⟨by simp, by simp [fileBytes], h.sourceFile⟩

/-- The source is opened at the byte index, and its size read again. -/
theorem Copies.prepare {call : CopyCall} {m : SDCHStateMachine} {card : Card}
    (h : Copies file source target m card) (hcall : AllSucceed call) :
    ∃ m', prepareCopyFileInformation call card m = (some ⟨file.bytes, m'.currentByteIdx⟩, m') ∧
      Copies file source target m' card ∧ m'.currentFileSize = file.bytes.length ∧
      m'.currentByteIdx = m.currentByteIdx := by
  have hbytes : fileBytes card source = file.bytes := by simp [fileBytes, h.sourceFile]
  have hcached : cacheFileSize card m = { m with currentFileSize := file.bytes.length } := by
    rw [cacheFileSize, if_pos h.counter, fFilelength, h.sourcePath, hbytes]
  have hsource : SDCHStateMachine.source { m with currentFileSize := file.bytes.length } = source :=
    h.sourcePath
  refine ⟨{ m with currentFileSize := file.bytes.length }, ?_,
    ⟨h.state, h.sourcePath, h.targetPath, h.counter, h.idx, h.sourceFile⟩, rfl, rfl⟩
  unfold prepareCopyFileInformation
  rw [if_neg (by simp [hcall.changeSource]), if_neg (by simp [hcall.length]), hcached]
  dsimp only
  rw [hsource, if_neg (by simp [hcall.openSource, h.sourceFile]), if_neg (by simp [hcall.seek]), hbytes]

/-- What a call makes of the end of its copy loop. -/
def endCall : Flow Outcome CopyLoop → Outcome × SDCHStateMachine × Card
  | .ret outcome s => (outcome, s.machine, s.card)
  | .next s => ((.operationFinished, [⟨true, noQueue, none, 0⟩]), s.machine.resetAndSetToIdle, s.card)

/-- A call of a copy under way comes to its copy loop, with an empty target. -/
theorem Copies.starts {call : CopyCall} {m : SDCHStateMachine} {card : Card}
    (h : Copies file source target m card) (hne : source ≠ target) (hcall : AllSucceed call) :
    ∃ s, InLoop file source target m.currentByteIdx s ∧ s.machine.currentByteIdx = m.currentByteIdx ∧
      continueCurrentOperation call m card =
        (whileLoop copyGoesOn copyPass call.passes s).map endCall := by
  obtain ⟨m', hprepare, h', hsize, hidx⟩ := h.prepare hcall
  obtain ⟨hopened, hempty, hsource⟩ := h'.openTarget hcall.probe hne
  -- the target is empty, so the invariant holds with the byte index as its start
  refine ⟨⟨⟨file.bytes, m'.currentByteIdx⟩, m', CopyFile.openTarget call card m'⟩,
    ⟨⟨h'.state, h'.sourcePath, h'.targetPath, h'.counter, h'.idx, hsource⟩, hsize,
      Nat.le_of_eq hidx.symm, rfl, hopened, by simpa [hidx] using hempty⟩, hidx, ?_⟩
  rw [continueCurrentOperation, h.state]
  unfold handleGenericCopyOperation
  rw [hprepare]
  dsimp only
  rw [if_neg (by simp [hcall.changeTarget]), if_neg (by simp [hcall.openTarget])]
  cases whileLoop copyGoesOn copyPass call.passes
      ⟨⟨file.bytes, m'.currentByteIdx⟩, m', CopyFile.openTarget call card m'⟩ with
  | none => rfl
  | some flow => cases flow <;> rfl

theorem continueCurrentOperation_ends {call : CopyCall} {m : SDCHStateMachine} {card : Card}
    {answer : Outcome × SDCHStateMachine × Card} (h : Copies file source target m card)
    (hne : source ≠ target) (hcall : AllSucceed call)
    (hrun : continueCurrentOperation call m card = some answer) :
    CallEnds file source target call m answer := by
  obtain ⟨s, hinit, hidx, hcontinue⟩ := h.starts hne hcall
  rw [hcontinue] at hrun
  obtain ⟨flow, hloop, rfl⟩ := Option.map_eq_some_iff.mp hrun
  have hends := copyLoop_ends hne hcall.passes hinit hloop
  cases hends with
  | done s' hloop' hall hnever =>
      rw [hidx] at hnever
      refine .finished _ _ _ hloop'.opened ?_ hnever
      rw [hloop'.copied, hall, ← List.length_drop, List.take_length]
  | interrupted s' hloop' hmore htimeout =>
      rw [hidx] at hmore htimeout
      exact .interrupted _ _ hloop'.copies hmore htimeout

/-- A first call with a pass for each part, all of them within its time, finishes the copy. -/
theorem continueCurrentOperation_finishes {call : CopyCall} {m : SDCHStateMachine} {card : Card}
    (h : Copies file source target m card) (hfirst : m.currentByteIdx = 0) (hne : source ≠ target)
    (hcall : AllSucceed call) (hcount : passCount file.bytes.length ≤ call.passes.length)
    (hnever : ∀ pass ∈ call.passes.take (passCount file.bytes.length), pass.timedOut = false) :
    ∃ (m' : SDCHStateMachine) (card' : Card), continueCurrentOperation call m card =
        some ((.operationFinished, [⟨true, noQueue, none, 0⟩]), m'.resetAndSetToIdle, card') := by
  obtain ⟨s, hinit, hidx, hcontinue⟩ := h.starts hne hcall
  have hleft : file.bytes.length - s.machine.currentByteIdx = file.bytes.length := by
    rw [hidx, hfirst, Nat.sub_zero]
  obtain ⟨flow, hloop⟩ := copyLoop_returns hne hcall.passes hinit (by rwa [hleft])
  cases copyLoop_ends hne hcall.passes hinit hloop with
  | done s' hloop' hall hnever' => exact ⟨s'.machine, s'.card, by rw [hcontinue, hloop]; rfl⟩
  | interrupted s' hloop' hmore htimeout =>
      obtain ⟨pass, hmem, htimedOut⟩ := htimeout
      rw [hleft] at hmem
      rw [hnever pass hmem] at htimedOut
      cases htimedOut

/-! ## A run of calls -/

theorem copyCall_next {call : CopyCall} {s s' : SDCHStateMachine × Card}
    (h : copyCall call s = some (.next s')) :
    ∃ messages, continueCurrentOperation call s.1 s.2 = some ((.taskPeriodOverSoon, messages), s') := by
  unfold copyCall at h
  split at h
  next => cases h
  next messages s₁ hcall =>
    cases h
    exact ⟨messages, hcall⟩
  next => cases h

theorem copyCall_ret {call : CopyCall} {s s' : SDCHStateMachine × Card} {outcome : Outcome}
    (h : copyCall call s = some (.ret outcome s')) :
    continueCurrentOperation call s.1 s.2 = some (outcome, s') := by
  unfold copyCall at h
  split at h
  next => cases h
  next => cases h
  next hcall =>
    cases h
    exact hcall

/-- A call that finishes the copy is the last one. -/
theorem copyRun_finished {call : CopyCall} {m : SDCHStateMachine} {card : Card}
    {messages : List CompletionMessage} {s : SDCHStateMachine × Card}
    (h : continueCurrentOperation call m card = some ((.operationFinished, messages), s)) :
    copyRun [call] (m, card) = some ((.operationFinished, messages), s) := by
  have hret : copyCall call (m, card) = some (.ret (.operationFinished, messages) s) := by
    unfold copyCall
    rw [h]
  unfold copyRun
  rw [whileLoop_ret rfl hret]

/-- A copy that is under way loses what was copied before. -/
theorem copyRun_loses {calls : List CopyCall} {s s' : SDCHStateMachine × Card}
    {messages : List CompletionMessage} (h : Copies file source target s.1 s.2) (hne : source ≠ target)
    (hbegun : 0 < s.1.currentByteIdx) (hcalls : ∀ call ∈ calls, AllSucceed call)
    (hrun : copyRun calls s = some ((.operationFinished, messages), s')) :
    fileBytes s'.2 target ≠ file.bytes := by
  have hstep : ∀ (call : CopyCall) (s : SDCHStateMachine × Card)
      (answer : Outcome × SDCHStateMachine × Card),
      (Copies file source target s.1 s.2 ∧ 0 < s.1.currentByteIdx) → AllSucceed call →
      continueCurrentOperation call s.1 s.2 = some answer →
      (answer.1.1 = .taskPeriodOverSoon →
        Copies file source target answer.2.1 answer.2.2 ∧ 0 < answer.2.1.currentByteIdx) ∧
      (answer.1.1 = .operationFinished → fileBytes answer.2.2 target ≠ file.bytes) := by
    intro call s answer ⟨hcopies, hpos⟩ hcall hanswer
    have hidx := hcopies.idx
    cases continueCurrentOperation_ends hcopies hne hcall hanswer with
    | finished messages m' card hopened hbytes hnever =>
        -- the target has what is behind the byte index, which is less than the file
        refine ⟨fun hsoon => (by cases hsoon), fun _ hsame => ?_⟩
        have hlength := congrArg List.length (hbytes.symm.trans hsame)
        rw [List.length_drop] at hlength
        omega
    | interrupted m' card hcopies' hmore htimeout =>
        exact ⟨fun _ => ⟨hcopies', Nat.lt_trans hpos hmore⟩, fun hfinished => (by cases hfinished)⟩
  have hrule := whileLoop_induct
    (I := fun s : SDCHStateMachine × Card =>
      Copies file source target s.1 s.2 ∧ 0 < s.1.currentByteIdx)
    (Q := fun outcome s => outcome.1 = .operationFinished → fileBytes s.2 target ≠ file.bytes)
    (fun _ => true) copyCall
    (fun call s s' hI _ (hcall : AllSucceed call) hnext => by
      obtain ⟨messages, hanswer⟩ := copyCall_next hnext
      exact (hstep call s _ hI hcall hanswer).1 rfl)
    (fun call s outcome s' hI _ hcall hret => (hstep call s _ hI hcall (copyCall_ret hret)).2)
    calls s ⟨h, hbegun⟩ (along_of_mem (fun call hmem _ => hcalls call hmem) s)
  unfold copyRun at hrun
  split at hrun
  next outcome s₁ hloop =>
    cases hrun
    exact hrule.2 _ _ hloop rfl
  next => cases hrun

/-- **A copy in several calls.** When every call of the file system succeeds and the copy is finished, the
    target holds the bytes of the source exactly if the first call was not interrupted. -/
theorem copyRun_copies_iff {m m' : SDCHStateMachine} {card card' : Card} {calls : List CopyCall}
    {messages : List CompletionMessage} (recipient : MessageQueueId)
    (hidle : m.internalState = .idle) (hsource : card source = some file) (hne : source ≠ target)
    (hcalls : ∀ call ∈ calls, AllSucceed call)
    (hrun : copyRun calls
      ((m.setCopyFileOperation source.1 source.2 target.1 target.2 recipient).2, card) =
      some ((.operationFinished, messages), m', card')) :
    (∃ copy, card' target = some copy ∧ copy.bytes = file.bytes) ↔
      NotInterrupted calls file.bytes.length := by
  have hset : Copies file source target
      (m.setCopyFileOperation source.1 source.2 target.1 target.2 recipient).2 card := by
    unfold SDCHStateMachine.setCopyFileOperation
    rw [if_neg (not_not.mpr hidle)]
    exact ⟨rfl, rfl, rfl, rfl, Nat.zero_le _, hsource⟩
  have hzero : (m.setCopyFileOperation source.1 source.2 target.1 target.2
      recipient).2.currentByteIdx = 0 := by
    unfold SDCHStateMachine.setCopyFileOperation
    rw [if_neg (not_not.mpr hidle)]
  generalize (m.setCopyFileOperation source.1 source.2 target.1 target.2 recipient).2 = m₀ at *
  cases calls with
  | nil => simp [copyRun, whileLoop] at hrun
  | cons call calls =>
      have hcall := hcalls call List.mem_cons_self
      cases hanswer : continueCurrentOperation call m₀ card with
      | none => simp [copyRun, whileLoop, copyCall, hanswer] at hrun
      | some answer =>
          cases continueCurrentOperation_ends hset hne hcall hanswer with
          | finished messages' m₁ card₁ hopened hbytes hnever =>
              -- the first call is the only one, and started at index 0
              simp only [copyRun, whileLoop, copyCall, hanswer, if_true, Option.some.injEq,
                Prod.mk.injEq] at hrun
              obtain ⟨_, _, rfl⟩ := hrun
              rw [hzero, Nat.sub_zero] at hnever
              rw [hzero, List.drop_zero] at hbytes
              refine iff_of_true ?_ ?_
              · cases hcopy : card₁ target with
                | none => exact absurd hcopy hopened
                | some copy => exact ⟨copy, rfl, by simpa [fileBytes, hcopy] using hbytes⟩
              · rintro call' ⟨⟩
                exact hnever
          | interrupted m₁ card₁ hcopies hmore htimeout =>
              rw [hzero] at hmore htimeout
              obtain ⟨pass, hmem, htimedOut⟩ := htimeout
              -- the calls behind it make up a run that has lost the first bytes
              have hrest : copyRun calls (m₁, card₁) =
                  some ((.operationFinished, messages), m', card') := by
                simpa [copyRun, whileLoop, copyCall, hanswer] using hrun
              have hlost := copyRun_loses (s := (m₁, card₁)) hcopies hne hmore
                (fun call' hmem => hcalls call' (List.mem_cons_of_mem _ hmem)) hrest
              refine iff_of_false ?_ ?_
              · rintro ⟨copy, hcopy, hbytes⟩
                exact hlost (by simpa [fileBytes, hcopy] using hbytes)
              · intro hnever
                have := hnever call rfl pass hmem
                rw [htimedOut] at this
                cases this

end Copying

/-! ## Two runs -/

def exampleSource : Path := ("A", "a.bin")
def exampleTarget : Path := ("B", "b.bin")

theorem oneByte_length_lt : ([7] : List UInt8).length < 2 ^ 31 := by decide

/-- A file of one byte. -/
def oneByte : SdFile := ⟨[7], oneByte_length_lt⟩

/-- The copy of a file, on a state machine that has been set to it. -/
def exampleCopy : SDCHStateMachine :=
  (SDCHStateMachine.initial.setCopyFileOperation exampleSource.1 exampleSource.2 exampleTarget.1
    exampleTarget.2 1).2

/-- A call in which the countdown times out behind the first pass, or does not. -/
def smoothCall (timedOut : Bool) : CopyCall where
  changeSource := 0
  lengthFails := false
  openSourceFails := false
  seek := 0
  changeTarget := 0
  probeFails := false
  openTargetFails := false
  lastError := 0
  passes := [⟨fileBufferSize, fileBufferSize, 0, timedOut⟩]

theorem smoothCall_allSucceed (timedOut : Bool) : AllSucceed (smoothCall timedOut) := by
  refine ⟨rfl, rfl, rfl, rfl, rfl, rfl, rfl, ?_⟩
  intro pass hmem
  obtain rfl := List.mem_singleton.mp hmem
  exact ⟨Nat.le_refl _, Nat.le_refl _⟩

theorem twoParts_length_lt : (List.replicate 8193 (7 : UInt8)).length < 2 ^ 31 := by
  rw [List.length_replicate]
  decide

/-- A file of one byte more than the buffer holds. -/
def twoParts : SdFile := ⟨List.replicate 8193 7, twoParts_length_lt⟩

/-- A call of two passes, both of them within its time. -/
def twoPartCall : CopyCall :=
  { smoothCall false with passes := List.replicate 2 ⟨fileBufferSize, fileBufferSize, 0, false⟩ }

theorem twoPartCall_allSucceed : AllSucceed twoPartCall := by
  refine ⟨rfl, rfl, rfl, rfl, rfl, rfl, rfl, ?_⟩
  intro pass hmem
  obtain rfl := List.eq_of_mem_replicate hmem
  exact ⟨Nat.le_refl _, Nat.le_refl _⟩

theorem passCount_twoParts : passCount twoParts.bytes.length ≤ 2 := by
  rw [twoParts, List.length_replicate]
  decide

theorem twoPartCall_inTime : ∀ pass ∈ twoPartCall.passes, pass.timedOut = false := by
  intro pass hmem
  obtain rfl := List.eq_of_mem_replicate hmem
  rfl

theorem exampleCopy_copies (file : SdFile) :
    Copies file exampleSource exampleTarget exampleCopy (cardWith exampleSource file) :=
  ⟨rfl, rfl, rfl, rfl, Nat.zero_le _, rfl⟩

theorem twoPartCall_finishes {file : SdFile} (hcount : passCount file.bytes.length ≤ 2) :
    ∃ (m' : SDCHStateMachine) (card' : Card),
      continueCurrentOperation twoPartCall exampleCopy (cardWith exampleSource file) =
        some ((.operationFinished, [⟨true, noQueue, none, 0⟩]), m'.resetAndSetToIdle, card') :=
  continueCurrentOperation_finishes (exampleCopy_copies file) rfl (by decide) twoPartCall_allSucceed hcount
    fun pass hmem => twoPartCall_inTime pass (List.mem_of_mem_take hmem)

/-- One call that has the time it needs for both parts. -/
theorem copyRun_copies_two_parts :
    ∃ messages m' card',
      copyRun [twoPartCall] (exampleCopy, cardWith exampleSource twoParts) =
        some ((.operationFinished, messages), m', card') ∧
      ((∃ copy, card' exampleTarget = some copy ∧ copy.bytes = twoParts.bytes) ↔
        NotInterrupted [twoPartCall] twoParts.bytes.length) ∧
      NotInterrupted [twoPartCall] twoParts.bytes.length := by
  have hne : exampleSource ≠ exampleTarget := by decide
  have hcount := passCount_twoParts
  -- its length is all that matters of the file
  generalize twoParts = file at hcount ⊢
  obtain ⟨m', card', hcall⟩ := twoPartCall_finishes hcount
  have hrun := copyRun_finished hcall
  refine ⟨_, _, _, hrun, copyRun_copies_iff (m := .initial) 1 rfl (if_pos rfl) hne ?_ hrun, ?_⟩
  · intro call hmem
    obtain rfl := List.mem_singleton.mp hmem
    exact twoPartCall_allSucceed
  · rintro call ⟨⟩ pass hmem
    exact twoPartCall_inTime pass (List.mem_of_mem_take hmem)

/-- **A copy that is continued is lost.** The first call copies the byte and is interrupted; the second
    one empties the target and finds nothing left to copy. -/
theorem copyRun_continued_empties :
    (∀ call ∈ [smoothCall true, smoothCall false], AllSucceed call) ∧
    ∃ messages m' card',
      copyRun [smoothCall true, smoothCall false] (exampleCopy, cardWith exampleSource oneByte) =
        some ((.operationFinished, messages), m', card') ∧
      (card' exampleSource).map SdFile.bytes = some [7] ∧
      (card' exampleTarget).map SdFile.bytes = some [] ∧
      ¬ ∃ copy, card' exampleTarget = some copy ∧ copy.bytes = oneByte.bytes := by
  refine ⟨?_, _, _, _, rfl, rfl, rfl, ?_⟩
  · intro call hmem
    rcases List.mem_cons.mp hmem with rfl | hmem
    · exact smoothCall_allSucceed true
    · obtain rfl := List.mem_singleton.mp hmem
      exact smoothCall_allSucceed false
  · rintro ⟨copy, hcopy, hbytes⟩
    obtain rfl := Option.some.inj hcopy
    cases hbytes

end CopyFile
end Sdc
end Obsw
