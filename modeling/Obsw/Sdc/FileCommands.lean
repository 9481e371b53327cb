import Obsw.Sdc.Api
import Obsw.Sdc.CopyReply
import Obsw.Sdc.Read

/-!
# `Sdc.FileCommands` — the file commands of the SD card handler

`SDCardHandler::handleFileMessage` with the handlers of its messages. Each of them fetches the data of
the message, parses it, calls the SD card API and is meant to send one completion reply. What the
store, the parsers, the file system and the queue answer is part of the message.
-/

namespace Obsw
namespace Sdc
namespace FileCommand

open Api CopyFile

/-! ## Messages -/

/-- The data of a message: it is not in the store, cannot be parsed, or holds the command. -/
inductive Fetched (α : Type) where
  | missing
  | invalid (code : Code)
  | command (a : α)

/-- What a reply with data meets: the store element or the error of `getFreeElement`, the error of
    `serialize`, and that of the queue. -/
structure DataReplyOutcome where
  freeElement : Except Code Nat
  serialize : Option Code
  reply : Option Code

/-- A file system message by its command, with all that handling it meets. A `write` command has the data
    for the file, a `finishAppend` command the flag that asks for a lock. -/
inductive FileMessage where
  | createFile (fetched : Fetched (List UInt8)) (o : CreateFileOutcome)
  | deleteFile (fetched : Fetched Unit) (o : DirectoryOutcome)
  | reportFileAttributes (fetched : Fetched Unit) (info : FileInfoOutcome) (o : DataReplyOutcome)
  | createDirectory (fetched : Fetched Unit) (o : DirectoryOutcome)
  | deleteDirectory (fetched : Fetched Unit) (o : DirectoryOutcome)
  | lockFile (lock : Bool) (fetched : Fetched Unit) (o : AttributeOutcome)
  | appendToFile (message : Option Upload.AppendCommand) (e : Upload.Env)
  | finishAppendToFile (fetched : Fetched Bool) (lock : AttributeOutcome) (info : FileInfoOutcome)
      (o : DataReplyOutcome)
  | copyFile (message : CopyMessage)
  | moveFile
  | readFromFile (e : Download.Env) (content : List UInt8) (storeId : Nat)
  | unknown

/-- What the handler sends to the sender of a message. -/
inductive Reply where
  | completion (m : CompletionMessage)
  | reportFileAttributes (storeId : Nat)
  | finishAppend (storeId : Nat)
  | readFromFile (finished : Bool) (storeId : Nat)
  | readFinished (storeId : Nat)
  deriving DecidableEq, Repr

/-- What a handler function returns (`none` is `RETURN_OK`) and the replies it sends. -/
structure Handled where
  result : Option Code
  replies : List Reply
  deriving DecidableEq, Repr

/-- The element is there, filled, and sent. -/
structure DataReplyOutcome.Succeeds (o : DataReplyOutcome) : Prop where
  freeElement : ∃ storeId, o.freeElement = .ok storeId
  serialize : o.serialize = none
  reply : o.reply = none

def sendSuccess : Reply := .completion successReply

def sendFailure (errorCode : Code) (errorParam : Nat) : Reply :=
  .completion (failureReply errorCode errorParam)

/-! ## The handlers of the messages -/

/-- `createFile`, of which every return value but -1 and -2 is taken for a success. -/
def createFileResult (o : CreateFileOutcome) (data : List UInt8) : Option Code :=
  let result := (Api.createFile o data).1
  if result = -2 then some .directoryDoesNotExist
  else if result = -1 then some .fileAlreadyExists
  else none

/-- `handleCreateFileCommand`. -/
def handleCreateFileCommand (fetched : Fetched (List UInt8)) (o : CreateFileOutcome) : Handled :=
  match fetched with
  | .missing => ⟨some .returnFailed, []⟩
  | .invalid code => ⟨some code, [sendFailure code 0]⟩
  | .command data =>
    match createFileResult o data with
    | none => ⟨none, [sendSuccess]⟩
    | some code => ⟨none, [sendFailure code 0]⟩

/-- `handleDeleteFileCommand`, with `removeFile`. -/
def handleDeleteFileCommand (fetched : Fetched Unit) (o : DirectoryOutcome) : Handled :=
  match fetched with
  | .missing => ⟨some .returnFailed, []⟩
  | .invalid code => ⟨some .returnFailed, [sendFailure code 0]⟩
  | .command () =>
    let result := (Api.deleteFile o).1
    if result = 0 then ⟨none, [sendSuccess]⟩ else ⟨none, [sendFailure (.fileSystem result) 0]⟩

/-- A reply with data: the store element it is sent with, or the error that keeps it from being sent. -/
def dataReply (o : DataReplyOutcome) : Except Code Nat :=
  match o.freeElement, o.serialize, o.reply with
  | .error code, _, _ => .error code
  | .ok _, some code, _ => .error code
  | .ok _, none, some code => .error code
  | .ok storeId, none, none => .ok storeId

/-- `handleReportAttributesCommand`. A failing `get_file_info` is reported, and the attributes are sent
    all the same. -/
def handleReportAttributesCommand (fetched : Fetched Unit) (info : FileInfoOutcome)
    (o : DataReplyOutcome) : Handled :=
  match fetched with
  | .missing => ⟨some .returnFailed, []⟩
  | .invalid code => ⟨some code, [sendFailure code 0]⟩
  | .command () =>
    let retval := (getFileInfo info).1
    -- no return behind the failure
    let replies := if retval ≠ 0 then [sendFailure .returnFailed retval.toNat] else []
    match dataReply o with
    | .error code => ⟨some code, replies ++ [sendFailure code 0]⟩
    | .ok storeId => ⟨none, replies ++ [.reportFileAttributes storeId, sendSuccess]⟩

/-- `createDirectory`. -/
def createDirectoryResult (o : DirectoryOutcome) : Option Code :=
  let result := (Api.createDirectory o).1
  if result = fErrDuplicated then some .directoryAlreadyExists
  else if result ≠ 0 then some (.fileSystem result)
  else none

/-- `handleCreateDirectoryCommand`. A directory that exists counts as a success; any other failure is
    reported before the success. -/
def handleCreateDirectoryCommand (fetched : Fetched Unit) (o : DirectoryOutcome) : Handled :=
  match fetched with
  | .missing => ⟨some .returnFailed, []⟩
  | .invalid code => ⟨some .returnFailed, [sendFailure code 0]⟩
  | .command () =>
    match createDirectoryResult o with
    | none | some .directoryAlreadyExists => ⟨none, [sendSuccess]⟩
    | some code => ⟨none, [sendFailure code 0, sendSuccess]⟩

/-- `removeDirectory`. -/
def removeDirectoryResult (o : DirectoryOutcome) : Option Code :=
  let result := (Api.deleteDirectory o).1
  if result = fErrNotempty then some .directoryNotEmpty
  else if result ≠ 0 then some (.fileSystem result)
  else none

/-- `handleDeleteDirectoryCommand`. -/
def handleDeleteDirectoryCommand (fetched : Fetched Unit) (o : DirectoryOutcome) : Handled :=
  match fetched with
  | .missing => ⟨some .returnFailed, []⟩
  | .invalid code => ⟨some .returnFailed, [sendFailure code 0]⟩
  | .command () =>
    match removeDirectoryResult o with
    | none => ⟨none, [sendSuccess]⟩
    | some code => ⟨none, [sendFailure code 0]⟩

/-- The end of `handleLockFileCommand`, behind the replies made so far. -/
def changeLock (lock : Bool) (o : AttributeOutcome) (result : Option Code) (replies : List Reply) :
    Handled :=
  let retval := if lock then (Api.lockFile o).1 else (Api.unlockFile o).1
  if retval = 0 then ⟨result, replies ++ [sendSuccess]⟩
  else ⟨some .returnFailed, replies ++ [sendFailure .returnFailed retval.toNat]⟩

/-- `handleLockFileCommand`. A command that cannot be parsed is reported and carried out with the names
    it has. -/
def handleLockFileCommand (lock : Bool) (fetched : Fetched Unit) (o : AttributeOutcome) : Handled :=
  match fetched with
  | .missing => ⟨some .returnFailed, []⟩
  | .invalid code => changeLock lock o (some code) [sendFailure code 0]
  | .command () => changeLock lock o none []

/-- The replies to what `appendToFile` returned. -/
def appendReplies : Upload.AppendResult → List Reply
  | .ok => [sendSuccess]
  | .directory code => [sendFailure (.fileSystem code) 0]
  | .sequencePacketMissingWrite packetSeqIfMissing =>
    [sendFailure .sequencePacketMissingWrite packetSeqIfMissing.toNat]
  | .fileDoesNotExist => [sendFailure .fileDoesNotExist 0]
  | .fileLocked => [sendFailure .fileLocked 0]
  | .failed => [sendFailure .returnFailed 0]

/-- `handleAppendCommand`. A command that cannot be fetched or parsed is not answered. -/
def handleAppendCommand (message : Option Upload.AppendCommand) (e : Upload.Env)
    (h : Upload.Handler) : Handled × Upload.Handler :=
  match Upload.handleAppendCommand e message h with
  | (none, h) => (⟨some .returnFailed, []⟩, h)
  | (some result, h) => (⟨none, appendReplies result⟩, h)

/-- `handleFinishAppendCommand`, with `generateFinishAppendReply`. Failures of the lock and of
    `get_file_info` are only printed. -/
def handleFinishAppendCommand (fetched : Fetched Bool) (o : DataReplyOutcome) (h : Upload.Handler) :
    Handled × Upload.Handler :=
  match fetched with
  | .missing => (⟨some .returnFailed, []⟩, h)
  | .invalid code => (⟨some code, []⟩, h)
  | .command _ =>
    let h := { h with lastPacketWriteNumber := Upload.unsetSequence }
    match dataReply o with
    | .error code => (⟨some code, []⟩, h)
    | .ok storeId => (⟨none, [.finishAppend storeId]⟩, h)

/-- The code of an error of a read command. -/
def readCode : Download.Error → Code
  | .failed => .returnFailed
  | .streamTooShort => .streamTooShort
  | .bufferTooShort => .bufferTooShort
  | .sequencePacketMissingRead => .sequencePacketMissingRead
  | .directory code => .fileSystem code
  | .store code => .framework code
  | .queue code => .framework code

/-- A reply of `handleReadReplies`. -/
def readReply (storeId : Nat) : Download.Reply → Reply
  | .readReply finished _ => .readFromFile finished storeId
  | .readFinished _ => .readFinished storeId
  | .failure error => sendFailure (readCode error) 0

/-- The members of the handler that file commands use, and the file that is written. -/
structure Handler where
  write : Upload.Handler
  read : Download.Handler
  stateMachine : SDCHStateMachine

/-- `handleFileMessage`. `none`: a string of a read command has no end. -/
def handleFileMessage (sender : MessageQueueId) (message : FileMessage) (h : Handler) :
    Option (Handled × Handler) :=
  match message with
  | .createFile fetched o => some (handleCreateFileCommand fetched o, h)
  | .deleteFile fetched o => some (handleDeleteFileCommand fetched o, h)
  | .reportFileAttributes fetched info o => some (handleReportAttributesCommand fetched info o, h)
  | .createDirectory fetched o => some (handleCreateDirectoryCommand fetched o, h)
  | .deleteDirectory fetched o => some (handleDeleteDirectoryCommand fetched o, h)
  | .lockFile lock fetched o => some (handleLockFileCommand lock fetched o, h)
  | .appendToFile message e =>
    let handled := handleAppendCommand message e h.write
    some (handled.1, { h with write := handled.2 })
  | .finishAppendToFile fetched _ _ o =>
    let handled := handleFinishAppendCommand fetched o h.write
    some (handled.1, { h with write := handled.2 })
  | .copyFile message =>
    let handled := handleCopyCommand sender message h.stateMachine
    some (⟨none, handled.1.map .completion⟩, { h with stateMachine := handled.2.2 })
  | .moveFile => some (⟨none, []⟩, h)
  | .readFromFile e content storeId =>
    (Download.handleReadCommand e content h.read).map fun (answer, read) =>
      (⟨answer.error.map readCode, answer.replies.map (readReply storeId)⟩, { h with read := read })
  | .unknown => some (⟨some .unknownCommand, []⟩, h)

/-- The first message of a cycle, for what `handleSdCardAccessResult` returns. -/
def handleFirstMessage (access : Option Code) (sender : MessageQueueId) (message : FileMessage)
    (h : Handler) : Option (Handled × Handler) :=
  match access with
  | some code => some (⟨some code, []⟩, h)
  | none => handleFileMessage sender message h

/-! ## When a command succeeds -/

/-- The operation of a command succeeds: its data is there, and every call it makes works. A directory
    that exists need not be created. A part of a file is read when it is sent. -/
def Succeeds (message : FileMessage) (h : Handler) : Prop :=
  match message with
  | .createFile fetched o => ∃ data, fetched = .command data ∧ o.Succeeds data
  | .deleteFile fetched o => fetched = .command () ∧ o.changeDirectory = 0 ∧ o.result = 0
  | .reportFileAttributes fetched info o => fetched = .command () ∧ info.Succeeds ∧ o.Succeeds
  | .createDirectory fetched o =>
    fetched = .command () ∧ o.changeDirectory = 0 ∧ (o.result = 0 ∨ o.result = fErrDuplicated)
  | .deleteDirectory fetched o => fetched = .command () ∧ o.changeDirectory = 0 ∧ o.result = 0
  | .lockFile _ fetched o => fetched = .command () ∧ o.Succeeds
  | .appendToFile message e =>
    ∃ command, message = some command ∧ Upload.ReachesWrite e command h.write ∧
      command.fileData.length ≤ e.accepted ∧ (command.packetNumber = 0 → e.seek = true) ∧ e.close = true
  | .finishAppendToFile fetched lock info o =>
    ∃ lockFile, fetched = .command lockFile ∧ (lockFile = true → lock.Succeeds) ∧ info.Succeeds ∧
      o.Succeeds
  | .readFromFile e content _ =>
    ∃ answer read, Download.handleReadCommand e content h.read = some (answer, read) ∧
      ∃ finished packet, .readReply finished packet ∈ answer.replies
  | .copyFile _ | .moveFile | .unknown => False

/-- The completion replies among the replies. -/
def completions (replies : List Reply) : List CompletionMessage :=
  replies.filterMap fun
    | .completion m => some m
    | _ => none

/-- There is one completion reply, and it tells whether the operation has succeeded. -/
def CompletedOnce (replies : List Reply) (succeeds : Prop) : Prop :=
  ∃ m, completions replies = [m] ∧ (m.success = true ↔ succeeds)

/-- The card can be accessed, and the state machine accepts the copy command. -/
def CopyAccepted (access : Option Code) (message : CopyMessage) (h : Handler) : Prop :=
  access = none ∧ (∃ command, message.command = .ok command) ∧ h.stateMachine.internalState = .idle

/-- A command is completed once; a copy command that the state machine accepts is not completed yet. -/
def Completed (access : Option Code) (message : FileMessage) (h : Handler) (handled : Handled) : Prop :=
  match message with
  | .copyFile copy =>
    (CopyAccepted access copy h → completions handled.replies = []) ∧
      (¬ CopyAccepted access copy h → CompletedOnce handled.replies False)
  | _ => CompletedOnce handled.replies (access = none ∧ Succeeds message h)

/-- The command can be parsed, is the next one, and finds its file and a store element. -/
def ReachesSerialize (e : Download.Env) (h : Download.Handler) : Prop :=
  ∃ buffer command, e.message = some buffer ∧
    Download.ReadCommand.deSerialize buffer = some (.ok command) ∧
    Upload.SequencePasses h.lastPacketReadNumber command.sequenceNumber ∧
    e.directory = none ∧ e.opens = true ∧ e.freeElement = none

/-- The condition under which a command is completed. -/
def CompletesOnce (message : FileMessage) (h : Handler) : Prop :=
  match message with
  | .createFile fetched o =>
    fetched ≠ .missing ∧ ∀ data, fetched = .command data →
      o.changeDirectory ≠ 0 ∨ o.findfirst = 0 ∨ o.Succeeds data
  | .deleteFile fetched _ | .deleteDirectory fetched _ => fetched ≠ .missing
  | .reportFileAttributes fetched info _ =>
    fetched ≠ .missing ∧ (fetched = .command () → info.Succeeds)
  | .createDirectory fetched o =>
    fetched ≠ .missing ∧ (fetched = .command () →
      o.changeDirectory = 0 ∧ (o.result = 0 ∨ o.result = fErrDuplicated))
  | .lockFile _ fetched _ => fetched = .command ()
  | .appendToFile message e =>
    ∃ command, message = some command ∧
      (Upload.ReachesWrite e command h.write → command.fileData.length ≤ e.accepted →
        (command.packetNumber = 0 → e.seek = true) ∧ e.close = true)
  | .copyFile copy => copy.getData = none ∧ copy.size ≠ 0
  | .readFromFile e _ _ => ReachesSerialize e h.read
  | .finishAppendToFile _ _ _ _ | .moveFile | .unknown => False

/-! ## Completions -/

section Completions

variable {replies : List Reply} {succeeds : Prop} {code : Code} {param : Nat}

theorem completions_append (replies replies' : List Reply) :
    completions (replies ++ replies') = completions replies ++ completions replies' :=
  List.filterMap_append

@[simp] theorem completedOnce_success : CompletedOnce [sendSuccess] succeeds ↔ succeeds := by
  simp [CompletedOnce, completions, sendSuccess, successReply]

@[simp] theorem completedOnce_failure :
    CompletedOnce [sendFailure code param] succeeds ↔ ¬ succeeds := by
  simp [CompletedOnce, completions, sendFailure, failureReply]

@[simp] theorem not_completedOnce_nil : ¬ CompletedOnce [] succeeds := by
  simp [CompletedOnce, completions]

/-- A failure and another completion are two. -/
theorem not_completedOnce_failure_cons (h : completions replies ≠ []) :
    ¬ CompletedOnce (sendFailure code param :: replies) succeeds := by
  rintro ⟨m, hm, _⟩
  have hcons : completions (sendFailure code param :: replies) =
      failureReply code param :: completions replies := rfl
  rw [hcons] at hm
  exact h (List.cons.inj hm).2

/-- A reply with data is not a completion. -/
theorem completedOnce_attributes_cons {storeId : Nat} :
    CompletedOnce (.reportFileAttributes storeId :: replies) succeeds ↔
      CompletedOnce replies succeeds := Iff.rfl

end Completions

/-! ## The commands -/

section Commands

variable {fetched : Fetched Unit} {h : Handler}

/-- What is returned behind `f_open` is not negative: an error code, or a number of bytes. -/
theorem createFile_nonneg {o : CreateFileOutcome} (data : List UInt8)
    (hdirectory : o.changeDirectory = 0) (hnew : o.findfirst ≠ 0) :
    ∃ n : Nat, (Api.createFile o data).1 = n := by
  unfold Api.createFile
  rw [if_neg (not_not.mpr hdirectory), if_neg hnew]
  split_ifs
  · exact ⟨_, rfl⟩
  · exact ⟨_, rfl⟩

theorem createFileResult_eq_none_iff {o : CreateFileOutcome} {data : List UInt8} :
    createFileResult o data = none ↔ o.changeDirectory = 0 ∧ o.findfirst ≠ 0 := by
  by_cases hdirectory : o.changeDirectory = 0
  · by_cases hnew : o.findfirst = 0
    · simp [createFileResult, Api.createFile, hdirectory, hnew]
    · obtain ⟨n, hn⟩ := createFile_nonneg data hdirectory hnew
      have htwo : (n : Int) ≠ -2 := by omega
      have hone : (n : Int) ≠ -1 := by omega
      simp [createFileResult, hn, htwo, hone, hdirectory, hnew]
  · simp [createFileResult, Api.createFile, hdirectory]

theorem handleCreateFileCommand_completed_iff {fetched : Fetched (List UInt8)} {o : CreateFileOutcome} :
    CompletedOnce (handleCreateFileCommand fetched o).replies (Succeeds (.createFile fetched o) h) ↔
      CompletesOnce (.createFile fetched o) h := by
  unfold handleCreateFileCommand
  simp only [Succeeds, CompletesOnce]
  cases fetched with
  | missing => simp
  | invalid code => simp
  | command data =>
      have hresult : createFileResult o data = none ↔ _ := createFileResult_eq_none_iff
      simp only [Fetched.command.injEq, exists_eq_left', forall_eq', ne_eq, reduceCtorEq,
        not_false_eq_true, true_and]
      cases hcode : createFileResult o data with
      | none =>
          obtain ⟨hdirectory, hnew⟩ := hresult.mp hcode
          simp [hdirectory, hnew]
      | some code =>
          have hfails : o.changeDirectory ≠ 0 ∨ o.findfirst = 0 := by
            by_contra hworks
            rw [not_or, not_not] at hworks
            rw [hresult.mpr hworks] at hcode
            cases hcode
          have hnot : ¬ o.Succeeds data := by
            rintro ⟨hdirectory, hnew, _⟩
            rcases hfails with hfails | hfails
            · exact hfails hdirectory
            · exact hnew hfails
          simpa [hnot] using hfails

theorem handleDeleteFileCommand_completed_iff {o : DirectoryOutcome} :
    CompletedOnce (handleDeleteFileCommand fetched o).replies (Succeeds (.deleteFile fetched o) h) ↔
      CompletesOnce (.deleteFile fetched o) h := by
  have hresult := inDirectory_eq_zero_iff (o := o)
  unfold handleDeleteFileCommand Api.deleteFile
  simp only [Succeeds, CompletesOnce]
  cases fetched with
  | missing => simp
  | invalid code => simp
  | command u =>
      by_cases hzero : (inDirectory o).1 = 0
      · simp [hzero, hresult.mp hzero]
      · simpa [hzero] using mt hresult.mpr hzero

theorem handleCreateDirectoryCommand_completed_iff {o : DirectoryOutcome} :
    CompletedOnce (handleCreateDirectoryCommand fetched o).replies
        (Succeeds (.createDirectory fetched o) h) ↔ CompletesOnce (.createDirectory fetched o) h := by
  unfold handleCreateDirectoryCommand
  simp only [Succeeds, CompletesOnce]
  cases fetched with
  | missing => simp
  | invalid code => simp
  | command u =>
      simp only [ne_eq, reduceCtorEq, not_false_eq_true, true_and, forall_const]
      split
      next hcode => simp
      next hcode => simp
      next code hother hcode =>
        -- the success is sent behind the else branch, so it follows the failure
        apply iff_of_false (not_completedOnce_failure_cons (by simp [completions, sendSuccess]))
        rintro ⟨hdirectory, hmade⟩
        unfold createDirectoryResult Api.createDirectory inDirectory at hcode
        rcases hmade with hmade | hmade
        · simp [hdirectory, hmade, fErrDuplicated] at hcode
        · simp only [hdirectory, hmade, ne_eq, not_true_eq_false, if_false, if_true,
            Option.some.injEq] at hcode
          exact hother hcode.symm

theorem removeDirectoryResult_eq_none_iff {o : DirectoryOutcome} :
    removeDirectoryResult o = none ↔ o.changeDirectory = 0 ∧ o.result = 0 := by
  rw [← inDirectory_eq_zero_iff]
  unfold removeDirectoryResult Api.deleteDirectory
  by_cases hnotempty : (inDirectory o).1 = fErrNotempty
  · simp [hnotempty, fErrNotempty]
  · simp [hnotempty]

theorem handleDeleteDirectoryCommand_completed_iff {o : DirectoryOutcome} :
    CompletedOnce (handleDeleteDirectoryCommand fetched o).replies
        (Succeeds (.deleteDirectory fetched o) h) ↔ CompletesOnce (.deleteDirectory fetched o) h := by
  have hresult := removeDirectoryResult_eq_none_iff (o := o)
  unfold handleDeleteDirectoryCommand
  simp only [Succeeds, CompletesOnce]
  cases fetched with
  | missing => simp
  | invalid code => simp
  | command u =>
      cases hcode : removeDirectoryResult o with
      | none => simp [hresult.mp hcode]
      | some code =>
          have hnot := mt hresult.mpr (by rw [hcode]; nofun)
          simpa using hnot

theorem dataReply_ok_iff {o : DataReplyOutcome} :
    (∃ storeId, dataReply o = .ok storeId) ↔ o.Succeeds := by
  unfold dataReply
  split
  next code _ _ hfree =>
    apply iff_of_false (by simp)
    rintro ⟨⟨storeId, hok⟩, _, _⟩
    rw [hfree] at hok
    cases hok
  next storeId code _ hfree hserialize =>
    apply iff_of_false (by simp)
    rintro ⟨_, hok, _⟩
    rw [hserialize] at hok
    cases hok
  next storeId code hfree hserialize hreply =>
    apply iff_of_false (by simp)
    rintro ⟨_, _, hok⟩
    rw [hreply] at hok
    cases hok
  next storeId hfree hserialize hreply =>
    exact iff_of_true ⟨storeId, rfl⟩ ⟨⟨storeId, hfree⟩, hserialize, hreply⟩

theorem not_succeeds_of_error {o : DataReplyOutcome} {code : Code} (h : dataReply o = .error code) :
    ¬ o.Succeeds := by
  intro hsucceeds
  obtain ⟨storeId, hok⟩ := dataReply_ok_iff.mpr hsucceeds
  rw [h] at hok
  cases hok

theorem handleReportAttributesCommand_completed_iff {info : FileInfoOutcome} {o : DataReplyOutcome} :
    CompletedOnce (handleReportAttributesCommand fetched info o).replies
        (Succeeds (.reportFileAttributes fetched info o) h) ↔
      CompletesOnce (.reportFileAttributes fetched info o) h := by
  have hinfo := getFileInfo_eq_zero_iff (o := info)
  have hdata := dataReply_ok_iff (o := o)
  unfold handleReportAttributesCommand
  simp only [Succeeds, CompletesOnce]
  cases fetched with
  | missing => simp
  | invalid code => simp
  | command u =>
      simp only [ne_eq, reduceCtorEq, not_false_eq_true, true_and, forall_const]
      by_cases hzero : (getFileInfo info).1 = 0
      · rw [if_neg (not_not.mpr hzero)]
        refine iff_of_true ?_ (hinfo.mp hzero)
        cases hreply : dataReply o with
        | ok storeId =>
            exact completedOnce_attributes_cons.mpr
              (completedOnce_success.mpr ⟨hinfo.mp hzero, hdata.mp ⟨storeId, hreply⟩⟩)
        | error code =>
            exact completedOnce_failure.mpr fun hsucceeds =>
              not_succeeds_of_error hreply hsucceeds.2
      · -- the failure of `get_file_info` comes first, and another completion behind it
        rw [if_pos hzero]
        refine iff_of_false ?_ (mt hinfo.mpr hzero)
        cases hreply : dataReply o with
        | ok storeId => exact not_completedOnce_failure_cons (by simp [completions, sendSuccess])
        | error code => exact not_completedOnce_failure_cons (by simp [completions, sendFailure])

/-- The end of a lock command is one completion. -/
theorem completions_changeLock (lock : Bool) (o : AttributeOutcome) (result : Option Code)
    (replies : List Reply) :
    ∃ m, completions (changeLock lock o result replies).replies = completions replies ++ [m] ∧
      (m.success = true ↔ o.Succeeds) := by
  have hretval : (if lock then (Api.lockFile o).1 else (Api.unlockFile o).1) =
      (changeAttribute o).1 := ite_self _
  unfold changeLock
  rw [hretval]
  by_cases hzero : (changeAttribute o).1 = 0
  · refine ⟨successReply, ?_, iff_of_true rfl (changeAttribute_eq_zero_iff.mp hzero)⟩
    rw [if_pos hzero]
    exact completions_append replies [sendSuccess]
  · refine ⟨failureReply .returnFailed (changeAttribute o).1.toNat, ?_,
      iff_of_false (by simp [failureReply]) (mt changeAttribute_eq_zero_iff.mpr hzero)⟩
    rw [if_neg hzero]
    exact completions_append replies [sendFailure .returnFailed (changeAttribute o).1.toNat]

theorem handleLockFileCommand_completed_iff {lock : Bool} {o : AttributeOutcome} :
    CompletedOnce (handleLockFileCommand lock fetched o).replies
        (Succeeds (.lockFile lock fetched o) h) ↔ CompletesOnce (.lockFile lock fetched o) h := by
  simp only [Succeeds, CompletesOnce]
  cases fetched with
  | missing => simp [handleLockFileCommand]
  | invalid code =>
      -- reported, and then carried out and reported again
      refine iff_of_false ?_ nofun
      rintro ⟨m, hm, _⟩
      obtain ⟨m', hm', _⟩ := completions_changeLock lock o (some code) [sendFailure code 0]
      have htwo := hm.symm.trans hm'
      cases htwo
  | command u =>
      refine iff_of_true ?_ rfl
      obtain ⟨m, hm, hsuccess⟩ := completions_changeLock lock o none []
      exact ⟨m, hm, by simpa using hsuccess⟩

/-- The answer to an append command is a success exactly if the command reached the write and all was
    written. -/
theorem completedOnce_appendReplies {e : Upload.Env} {command : Upload.AppendCommand}
    {w : Upload.Handler} {succeeds : Prop} :
    CompletedOnce (appendReplies (Upload.appendToFile e command w).1) succeeds ↔
      ((Upload.ReachesWrite e command w ∧ command.fileData.length ≤ e.accepted) ↔ succeeds) := by
  by_cases hreach : Upload.ReachesWrite e command w
  · obtain ⟨_, _, hreply, _⟩ := Upload.appendToFile_written hreach
    rw [hreply]
    by_cases hall : command.fileData.length ≤ e.accepted
    · rw [if_neg (by simp [hall])]
      simp [appendReplies, hreach, hall]
    · rw [if_pos (by simp; omega)]
      simp [appendReplies, hall]
  · -- whatever turns the command away, the answer is a failure
    have hfailed := (Upload.appendToFile_turned_away hreach).1
    cases hreply : (Upload.appendToFile e command w).1 with
    | ok => exact absurd hreply hfailed
    | directory code => simp [appendReplies, hreach]
    | sequencePacketMissingWrite missing => simp [appendReplies, hreach]
    | fileDoesNotExist => simp [appendReplies, hreach]
    | fileLocked => simp [appendReplies, hreach]
    | failed => simp [appendReplies, hreach]

theorem handleAppendCommand_completed_iff {message : Option Upload.AppendCommand} {e : Upload.Env} :
    CompletedOnce (handleAppendCommand message e h.write).1.replies
        (Succeeds (.appendToFile message e) h) ↔
      CompletesOnce (.appendToFile message e) h := by
  simp only [Succeeds, CompletesOnce]
  cases message with
  | none => simp [handleAppendCommand, Upload.handleAppendCommand]
  | some command =>
      have hanswer : (handleAppendCommand (some command) e h.write).1.replies =
          appendReplies (Upload.appendToFile e command h.write).1 := rfl
      rw [hanswer, completedOnce_appendReplies]
      simp only [Option.some.injEq, exists_eq_left']
      constructor
      · intro hiff hreach hall
        exact (hiff.mp ⟨hreach, hall⟩).2.2
      · intro hworks
        exact ⟨fun ⟨hreach, hall⟩ => ⟨hreach, hall, hworks hreach hall⟩,
          fun ⟨hreach, hall, _⟩ => ⟨hreach, hall⟩⟩

theorem not_completedOnce_finishAppend {fetched : Fetched Bool} {o : DataReplyOutcome}
    {w : Upload.Handler} {succeeds : Prop} :
    ¬ CompletedOnce (handleFinishAppendCommand fetched o w).1.replies succeeds := by
  unfold handleFinishAppendCommand
  cases fetched with
  | missing => exact not_completedOnce_nil
  | invalid code => exact not_completedOnce_nil
  | command lockFile =>
      dsimp only
      cases dataReply o with
      | error code => exact not_completedOnce_nil
      | ok storeId => exact not_completedOnce_nil

theorem completions_map (ms : List CompletionMessage) : completions (ms.map .completion) = ms := by
  induction ms with
  | nil => rfl
  | cons m ms ih => exact congrArg (m :: ·) ih

/-- The rejections at the start of a copy command come on top of the one at its end. -/
theorem completedOnce_rejections {message : CopyMessage} {code : Code} :
    CompletedOnce ((message.rejections ++ [failureReply code 0]).map .completion) False ↔
      message.getData = none ∧ message.size ≠ 0 := by
  rw [← CopyMessage.rejections_eq_nil_iff, CompletedOnce, completions_map]
  constructor
  · rintro ⟨m, hm, _⟩
    have hlength := congrArg List.length hm
    simp only [List.length_append, List.length_singleton] at hlength
    exact List.eq_nil_of_length_eq_zero (by omega)
  · intro hnil
    exact ⟨failureReply code 0, by rw [hnil, List.nil_append], by simp [failureReply]⟩

theorem handleCopyCommand_completed_iff {sender : MessageQueueId} {message : CopyMessage} :
    Completed none (.copyFile message) h
        ⟨none, (handleCopyCommand sender message h.stateMachine).1.map .completion⟩ ↔
      CompletesOnce (.copyFile message) h := by
  simp only [Completed, CompletesOnce, CopyAccepted, true_and]
  rcases handleCopyCommand_cases sender message h.stateMachine with
    ⟨command, hcommand, hidle, _, _, _, hreplies⟩ | ⟨command, hcommand, hbusy, _, _, _, hreplies⟩ |
      ⟨⟨result, hcommand, hreplies⟩, _, _⟩
  · -- accepted: the rejections are all that is sent
    rw [hreplies, completions_map, CopyMessage.rejections_eq_nil_iff]
    simp [hcommand, hidle]
  · -- refused, by another failure behind the rejections
    rw [hreplies, completedOnce_rejections]
    simp [hcommand, hbusy]
  · rw [hreplies, completedOnce_rejections]
    simp [hcommand]

theorem openFileForReading_error {e : Download.Env} (fileSize readPosition : Nat)
    (h : ¬ (e.directory = none ∧ e.opens = true)) :
    ∃ error, Download.openFileForReading e fileSize readPosition = .error error := by
  unfold Download.openFileForReading
  cases hdirectory : e.directory with
  | some code => exact ⟨_, rfl⟩
  | none =>
      have hopens : e.opens = false := by simpa [hdirectory] using h
      exact ⟨_, if_pos hopens⟩

theorem openFileForReading_ok {e : Download.Env} (fileSize readPosition : Nat)
    (hdirectory : e.directory = none) (hopens : e.opens = true) :
    ∃ position sizeToRead,
      Download.openFileForReading e fileSize readPosition = .ok (position, sizeToRead) := by
  simp only [Download.openFileForReading, hdirectory, hopens, Bool.true_eq_false, if_false]
  split
  · exact ⟨_, _, rfl⟩
  · split <;> exact ⟨_, _, rfl⟩

/-- What is answered once the command is parsed and is the next one. -/
theorem handleReadReplies_answers (e : Download.Env) (content : List UInt8)
    (command : Download.ReadCommand) (r : Download.Handler) :
    (Download.handleReadReplies e content command r).1.replies =
      if e.directory = none ∧ e.opens = true ∧ e.freeElement = none then [.failure .bufferTooShort]
      else [] := by
  unfold Download.handleReadReplies
  by_cases hfile : e.directory = none ∧ e.opens = true
  · obtain ⟨position, sizeToRead, hopen⟩ := openFileForReading_ok content.length
      (command.sequenceNumber.toNat * sdCardMaxReadLength) hfile.1 hfile.2
    cases hstore : e.freeElement with
    | some code => simp [hopen]
    | none =>
        simp [hopen, hfile, Download.serialize_sizeToRead
          ⟨command.repositoryPath, command.filename, sizeToRead⟩]
  · obtain ⟨error, hopen⟩ := openFileForReading_error content.length
      (command.sequenceNumber.toNat * sdCardMaxReadLength) hfile
    rw [if_neg (fun hall => hfile ⟨hall.1, hall.2.1⟩)]
    simp [hopen]

theorem handleSequenceNumberRead_ok_iff {last sequenceNumber : UInt16} :
    (∃ new, Download.handleSequenceNumberRead last sequenceNumber = .ok new) ↔
      Upload.SequencePasses last sequenceNumber := by
  rw [← Upload.handleSequenceNumberWrite_ok_iff]
  unfold Download.handleSequenceNumberRead
  cases Upload.handleSequenceNumberWrite last sequenceNumber with
  | error missing => simp
  | ok new => simp

/-- A read command gets as far as the packet, which does not fit, or is not answered. -/
theorem handleReadCommand_answers {e : Download.Env} {content : List UInt8} {r r' : Download.Handler}
    {answer : Download.Answer} (hrun : Download.handleReadCommand e content r = some (answer, r')) :
    (ReachesSerialize e r ∧ answer.replies = [.failure .bufferTooShort]) ∨
      ¬ ReachesSerialize e r ∧ answer.replies = [] := by
  unfold Download.handleReadCommand at hrun
  cases hmessage : e.message with
  | none =>
      rw [hmessage] at hrun
      cases hrun
      exact .inr ⟨by simp [ReachesSerialize, hmessage], rfl⟩
  | some buffer =>
      rw [hmessage] at hrun
      cases hparse : Download.ReadCommand.deSerialize buffer with
      | none => simp [hparse] at hrun
      | some parsed =>
          cases parsed with
          | error error =>
              simp only [hparse] at hrun
              cases hrun
              exact .inr ⟨by simp [ReachesSerialize, hmessage, hparse], rfl⟩
          | ok command =>
              simp only [hparse] at hrun
              -- what is left of the condition once the command is parsed
              have hreaches : ReachesSerialize e r ↔
                  Upload.SequencePasses r.lastPacketReadNumber command.sequenceNumber ∧
                    e.directory = none ∧ e.opens = true ∧ e.freeElement = none := by
                simp [ReachesSerialize, hmessage, hparse]
              rw [hreaches, ← handleSequenceNumberRead_ok_iff]
              cases hsequence :
                  Download.handleSequenceNumberRead r.lastPacketReadNumber command.sequenceNumber with
              | error error =>
                  simp only [hsequence] at hrun
                  cases hrun
                  exact .inr ⟨by simp, rfl⟩
              | ok last =>
                  simp only [hsequence] at hrun
                  have hanswer := congrArg Prod.fst (Option.some.inj hrun)
                  dsimp only at hanswer
                  rw [← hanswer, handleReadReplies_answers]
                  by_cases hfile : e.directory = none ∧ e.opens = true ∧ e.freeElement = none
                  · exact .inl ⟨⟨⟨last, rfl⟩, hfile⟩, if_pos hfile⟩
                  · exact .inr ⟨fun h => hfile h.2, if_neg hfile⟩

/-- No read command succeeds, since no packet is ever sent. -/
theorem not_succeeds_readFromFile {e : Download.Env} {content : List UInt8} {storeId : Nat} :
    ¬ Succeeds (.readFromFile e content storeId) h := by
  rintro ⟨answer, read, hrun, finished, packet, hreply⟩
  cases Download.handleReadCommand_replies hrun _ hreply

theorem readAnswer_completed_iff {e : Download.Env} {content : List UInt8} {storeId : Nat}
    {answer : Download.Answer} {read : Download.Handler}
    (hrun : Download.handleReadCommand e content h.read = some (answer, read)) :
    CompletedOnce (answer.replies.map (readReply storeId))
        (Succeeds (.readFromFile e content storeId) h) ↔
      CompletesOnce (.readFromFile e content storeId) h := by
  simp only [CompletesOnce]
  rcases handleReadCommand_answers hrun with ⟨hreaches, hreplies⟩ | ⟨hstops, hreplies⟩
  · rw [hreplies]
    refine iff_of_true ?_ hreaches
    exact completedOnce_failure.mpr not_succeeds_readFromFile
  · rw [hreplies]
    exact iff_of_false not_completedOnce_nil hstops

/-- What the first message of a cycle meets when the card can be accessed. -/
theorem handleFileMessage_completed_iff {sender : MessageQueueId} {message : FileMessage}
    {h' : Handler} {handled : Handled} (hrun : handleFileMessage sender message h = some (handled, h')) :
    Completed none message h handled ↔ CompletesOnce message h := by
  cases message with
  | createFile fetched o =>
      cases hrun
      simpa [Completed] using handleCreateFileCommand_completed_iff
  | deleteFile fetched o =>
      cases hrun
      simpa [Completed] using handleDeleteFileCommand_completed_iff
  | reportFileAttributes fetched info o =>
      cases hrun
      simpa [Completed] using handleReportAttributesCommand_completed_iff
  | createDirectory fetched o =>
      cases hrun
      simpa [Completed] using handleCreateDirectoryCommand_completed_iff
  | deleteDirectory fetched o =>
      cases hrun
      simpa [Completed] using handleDeleteDirectoryCommand_completed_iff
  | lockFile lock fetched o =>
      cases hrun
      simpa [Completed] using handleLockFileCommand_completed_iff
  | appendToFile message e =>
      cases hrun
      simpa [Completed] using handleAppendCommand_completed_iff
  | finishAppendToFile fetched lock info o =>
      cases hrun
      exact iff_of_false not_completedOnce_finishAppend id
  | copyFile message =>
      cases hrun
      exact handleCopyCommand_completed_iff
  | moveFile =>
      cases hrun
      exact iff_of_false not_completedOnce_nil id
  | readFromFile e content storeId =>
      obtain ⟨⟨answer, read⟩, hread, heq⟩ := Option.map_eq_some_iff.mp hrun
      cases heq
      simpa [Completed] using readAnswer_completed_iff hread
  | unknown =>
      cases hrun
      exact iff_of_false not_completedOnce_nil id

/-- No file command ends a running operation. -/
theorem handleFileMessage_internalState {sender : MessageQueueId} {message : FileMessage}
    {h' : Handler} {handled : Handled} (hrun : handleFileMessage sender message h = some (handled, h'))
    (hbusy : h.stateMachine.internalState ≠ .idle) :
    h'.stateMachine.internalState = h.stateMachine.internalState := by
  cases message with
  | copyFile message =>
      cases hrun
      rcases handleCopyCommand_cases sender message h.stateMachine with
        ⟨_, _, hidle, _⟩ | ⟨_, _, _, _, hstate, _⟩ | ⟨_, _, hkept⟩
      · exact absurd hidle hbusy
      · exact hstate
      · exact congrArg SDCHStateMachine.internalState hkept
  | readFromFile e content storeId =>
      obtain ⟨_, _, heq⟩ := Option.map_eq_some_iff.mp hrun
      cases heq
      rfl
  | _ =>
      cases hrun
      rfl

/-- A message that meets a card that cannot be accessed is dropped. -/
theorem not_completed_dropped {code : Code} {message : FileMessage} {result : Option Code} :
    ¬ Completed (some code) message h ⟨result, []⟩ := by
  intro hcompleted
  cases message
  case copyFile copy => exact not_completedOnce_nil (hcompleted.2 (fun haccepted => nomatch haccepted.1))
  all_goals exact not_completedOnce_nil hcompleted

end Commands

/-- **Completion of file commands.** A file command is completed exactly once, and by what has happened,
    exactly if the card can be accessed and the command meets the condition. -/
theorem handleFirstMessage_completed_iff {access : Option Code} {sender : MessageQueueId}
    {message : FileMessage} {h h' : Handler} {handled : Handled}
    (hrun : handleFirstMessage access sender message h = some (handled, h')) :
    Completed access message h handled ↔ access = none ∧ CompletesOnce message h := by
  cases access with
  | none =>
      rw [handleFileMessage_completed_iff hrun]
      simp
  | some code =>
      cases hrun
      exact iff_of_false not_completed_dropped (fun hall => nomatch hall.1)

/-- The handler at startup. -/
def Handler.initial : Handler where
  write := ⟨Upload.unsetSequence, none⟩
  read := ⟨Upload.unsetSequence, 0⟩
  stateMachine := .initial

/-- A command to create a directory that is there already. -/
theorem createDirectory_completed :
    Completed none (.createDirectory (.command ()) ⟨0, fErrDuplicated⟩) .initial
      ⟨none, [sendSuccess]⟩ := by
  have hrun : handleFirstMessage none 1 (.createDirectory (.command ()) ⟨0, fErrDuplicated⟩) .initial =
      some (⟨none, [sendSuccess]⟩, .initial) := rfl
  exact (handleFirstMessage_completed_iff hrun).mpr ⟨rfl, nofun, fun _ => ⟨rfl, .inr rfl⟩⟩

/-- **A directory that cannot be created is reported twice**, as a failure and as a success. -/
theorem createDirectory_failure_not_completed :
    (handleFirstMessage none 1 (.createDirectory (.command ()) ⟨0, 1⟩) .initial).map (·.1.replies) =
        some [sendFailure (.fileSystem 1) 0, sendSuccess] ∧
      ∀ handled h', handleFirstMessage none 1 (.createDirectory (.command ()) ⟨0, 1⟩) .initial =
        some (handled, h') →
          ¬ Completed none (.createDirectory (.command ()) ⟨0, 1⟩) .initial handled := by
  refine ⟨rfl, ?_⟩
  intro handled h' hrun
  cases hrun
  exact not_completedOnce_failure_cons nofun

end FileCommand
end Sdc
end Obsw
