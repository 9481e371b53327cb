import Obsw.Sdc.CopyWaits

/-!
# `Pus.Service23` — the file management service

`Service23FileManagement` and its replies from the SD card handler. The commanding service of the
framework is not part of the repository: it ends a command when `handleReply` returns `RETURN_OK` or
`EXECUTION_COMPLETE` without a step, goes on with it after a step, and ends it as a failure for any other
code. A reply to a command that has ended goes to `handleUnrequestedReply`.

Most commands are answered when they are handled. A copy is answered by the call that drives it, which may
come cycles later, behind messages of others (`Sdc.CopyWaits`), and then perhaps to somebody else.
-/

namespace Obsw
namespace Pus
namespace Service23

open Sdc FileCommand
open CopyFile (CopyCall CopyFileCommand CopyMessage SDCHStateMachine Result Interim Pending wait
  continueCurrentOperation handleCopyCommand)

/-! ## Commands -/

/-- The subservices of the file commands and of their telemetry. -/
inductive Subservice where
  | cmdCreateFile
  | cmdDeleteFile
  | cmdReportFileAttributes
  | replyReportFileAttributes
  | cmdLockFile
  | cmdUnlockFile
  | createDirectory
  | deleteDirectory
  | cmdCopyFile
  | cmdMoveFile
  | appendToFile
  | finishAppendToFile
  | finishAppendReply
  | cmdReadFromFile
  | replyReadFromFile
  | replyReadStopedOrFinished
  deriving DecidableEq, Repr

/-- `isValidSubservice`. -/
def isValidSubservice : Subservice → Bool
  | .cmdCreateFile | .cmdDeleteFile | .cmdLockFile | .cmdUnlockFile | .createDirectory
  | .deleteDirectory | .cmdReportFileAttributes | .appendToFile | .finishAppendToFile
  | .cmdReadFromFile | .cmdCopyFile => true
  | .replyReportFileAttributes | .cmdMoveFile | .finishAppendReply | .replyReadFromFile
  | .replyReadStopedOrFinished => false

/-- The subservice for which `prepareCommand` sends such a message. -/
def subserviceOf : FileMessage → Option Subservice
  | .createFile _ _ => some .cmdCreateFile
  | .deleteFile _ _ => some .cmdDeleteFile
  | .reportFileAttributes _ _ _ => some .cmdReportFileAttributes
  | .createDirectory _ _ => some .createDirectory
  | .deleteDirectory _ _ => some .deleteDirectory
  | .lockFile true _ _ => some .cmdLockFile
  | .lockFile false _ _ => some .cmdUnlockFile
  | .appendToFile _ _ => some .appendToFile
  | .finishAppendToFile _ _ _ _ => some .finishAppendToFile
  | .copyFile _ => some .cmdCopyFile
  | .readFromFile _ _ _ => some .cmdReadFromFile
  | .moveFile | .unknown => none

/-- A telecommand that the service accepts, by the message it is sent on with. -/
structure Telecommand where
  message : FileMessage
  subservice : Subservice
  sent : subserviceOf message = some subservice
  valid : isValidSubservice subservice = true

/-! ## Replies -/

/-- A command in the service: whether it has ended and how, the replies behind its end, the telemetry with
    the store entries it was made of, and the entries that are in the store. -/
structure CommandInfo where
  ended : List Bool
  late : List Reply
  telemetry : List (Subservice × Nat)
  stored : Nat → Bool

/-- What `handleReply` returns. -/
inductive ReplyResult where
  | returnOk
  | executionComplete
  | failed
  deriving DecidableEq, Repr

/-- `forwardFileSystemReply`. The accessor deletes the store entry. A packet that cannot be sent is only
    printed. -/
def forwardFileSystemReply (sendTmPacket : Option Code) (subservice : Subservice) (storeId : Nat)
    (s : CommandInfo) : ReplyResult × CommandInfo :=
  if s.stored storeId then
    (.returnOk,
      { s with
        telemetry :=
          if sendTmPacket = none then s.telemetry ++ [(subservice, storeId)] else s.telemetry
        stored := fun i => if i = storeId then false else s.stored i })
  else (.failed, s)

/-- `handleReply`: what it returns, and whether the reply is a step. -/
def handleReply (sendTmPacket : Option Code) (reply : Reply) (s : CommandInfo) :
    (ReplyResult × CommandInfo) × Bool :=
  match reply with
  | .completion m => (if m.success then (.executionComplete, s) else (.failed, s), false)
  | .readFromFile readFinished storeId =>
    (forwardFileSystemReply sendTmPacket .replyReadFromFile storeId s, !readFinished)
  | .readFinished storeId =>
    (forwardFileSystemReply sendTmPacket .replyReadStopedOrFinished storeId s, false)
  | .finishAppend storeId =>
    (forwardFileSystemReply sendTmPacket .finishAppendReply storeId s, false)
  | .reportFileAttributes storeId =>
    (forwardFileSystemReply sendTmPacket .replyReportFileAttributes storeId s, false)

/-- `handleUnrequestedReply`. -/
def handleUnrequestedReply (sendTmPacket : Option Code) (reply : Reply) (s : CommandInfo) :
    CommandInfo :=
  match reply with
  | .readFinished storeId =>
    (forwardFileSystemReply sendTmPacket .replyReadStopedOrFinished storeId s).2
  | _ => s

/-- A reply in the commanding service. -/
def serveReply (sendTmPacket : Option Code) (reply : Reply) (s : CommandInfo) : CommandInfo :=
  if s.ended = [] then
    let handled := handleReply sendTmPacket reply s
    match handled.1.1, handled.2 with
    | .returnOk, true => handled.1.2
    | .returnOk, false | .executionComplete, _ => { handled.1.2 with ended := [true] }
    | .failed, _ => { handled.1.2 with ended := [false] }
  else
    let s := handleUnrequestedReply sendTmPacket reply s
    { s with late := s.late ++ [reply] }

/-- The replies in order, with what `sendTmPacket` returns for each. -/
def serveReplies (sendTmPacket : Nat → Option Code) : List Reply → CommandInfo → CommandInfo
  | [],               s => s
  | reply :: replies, s =>
    serveReplies (fun i => sendTmPacket (i + 1)) replies (serveReply (sendTmPacket 0) reply s)

/-- The telemetry a reply is to be forwarded as, with its store entry. -/
def telemetryOf : Reply → Option (Subservice × Nat)
  | .completion _ => none
  | .reportFileAttributes storeId => some (.replyReportFileAttributes, storeId)
  | .finishAppend storeId => some (.finishAppendReply, storeId)
  | .readFromFile _ storeId => some (.replyReadFromFile, storeId)
  | .readFinished storeId => some (.replyReadStopedOrFinished, storeId)

/-- A command that waits for replies; the entries these carry are in the store. -/
def waiting (replies : List Reply) : CommandInfo where
  ended := []
  late := []
  telemetry := []
  stored := fun storeId => decide (storeId ∈ (replies.filterMap telemetryOf).map Prod.snd)

/-! ## The replies to a telecommand -/

/-- What follows a copy command that is accepted: the card behind it, the messages taken before the state
    machine is driven, and the call that drives it, if there is one. -/
structure Course where
  card : Card
  interim : List Interim
  call : Option CopyCall

/-- A call that drove the state machine: its result, and the files it copied. -/
structure Copied where
  result : Result
  source : Path
  target : Path

/-- The accepted copy command is driven: the messages that reach its sender. One call ends any copy
    (`driveStateMachine_idle`). -/
def driveCopy (sender : MessageQueueId) (course : Course) (m : SDCHStateMachine) :
    Option (List CompletionMessage × Option Copied) :=
  let h := wait course.interim ⟨m, course.card, sender, []⟩
  if h.stateMachine.internalState = .idle then some ([], none)
  else
    match course.call with
    | none => some ([], none)
    | some call =>
      (continueCurrentOperation call h.stateMachine h.card).map fun answer =>
        (answer.1.2.filter fun m => decide (m.receiver h.lastPartner = sender),
          some ⟨answer.1.1, h.stateMachine.source, h.stateMachine.target⟩)

/-- The replies of the handler to a command, and the call that drove the copy it started. -/
def repliesTo (access : Option Code) (sender : MessageQueueId) (message : FileMessage) (h : Handler)
    (course : Course) : Option (List Reply × Option Copied) :=
  match handleFirstMessage access sender message h with
  | none => none
  | some (handled, h') =>
    match access, message with
    | none, .copyFile copy =>
      if (handleCopyCommand sender copy h.stateMachine).2.1 then
        (driveCopy sender course h'.stateMachine).map fun driven =>
          (handled.replies ++ driven.1.map .completion, driven.2)
      else some (handled.replies, none)
    | _, _ => some (handled.replies, none)

/-- The file to copy. -/
def source (command : CopyFileCommand) : Path := (command.sourcePath, command.sourceName)

/-- The file to copy it to. -/
def target (command : CopyFileCommand) : Path := (command.targetPath, command.targetName)

/-- The operation of the handler succeeds; a copy, if a call has copied the files of the command. -/
def OperationSucceeds (access : Option Code) (message : FileMessage) (h : Handler)
    (copied : Option Copied) : Prop :=
  match message with
  | .copyFile copy =>
    ∃ command, copy.command = .ok command ∧
      copied = some ⟨.operationFinished, source command, target command⟩
  | message => access = none ∧ Succeeds message h

/-- The command is ended once, as it should, by the last reply to it, and each reply with data is
    forwarded. -/
def EndedOnce (sendTmPacket : Nat → Option Code) (replies : List Reply) (succeeds : Prop) : Prop :=
  let s := serveReplies sendTmPacket replies (waiting replies)
  (∃ success, s.ended = [success] ∧ (success = true ↔ succeeds)) ∧ s.late = [] ∧
    s.telemetry = replies.filterMap telemetryOf

/-- No message cancels the copy, and the call that drives it meets a condition. -/
def Driven (course : Course) (meets : CopyCall → Prop) : Prop :=
  CopyFile.NotCancelled course.interim ∧ ∃ call, course.call = some call ∧ meets call

/-- A failure of the copy reaches the sender: no other copy command has taken its place. -/
def FailureReaches (sender : MessageQueueId) (m : SDCHStateMachine) (p : Pending) (call : CopyCall) : Prop :=
  CopyFile.CallFails call p.card (p.machine m) ∧
    (if p.recipient = noQueue then p.partner else p.recipient) = sender

/-- The end of the copy reaches the sender: no other has sent a message since. -/
def SuccessReaches (sender : MessageQueueId) (m : SDCHStateMachine) (p : Pending) (call : CopyCall) : Prop :=
  CopyFile.CallFinishes call p.card (p.machine m) ∧ p.partner = sender

/-- The files of the command are copied to the end. -/
def CopiesFiles (command : CopyFileCommand) (m : SDCHStateMachine) (p : Pending) (call : CopyCall) : Prop :=
  CopyFile.CallFinishes call p.card (p.machine m) ∧ source p.command = source command ∧
    target p.command = target command

/-- The condition under which a copy command is ended once: either it is not rejected, and the call that
    drives it fails or copies its files and tells the sender so, or it is rejected once, and then is told
    nothing and copies nothing. -/
def CopyEndsOnce (sender : MessageQueueId) (copy : CopyMessage) (command : CopyFileCommand)
    (m : SDCHStateMachine) (course : Course) : Prop :=
  let p := (Pending.commanded sender command course.card).behind course.interim
  (copy.getData = none ∧ copy.size ≠ 0 ∧
      Driven course fun call => FailureReaches sender m p call ∨
        (SuccessReaches sender m p call ∧ CopiesFiles command m p call)) ∨
    ((copy.getData = none ↔ copy.size = 0) ∧
      ¬ Driven course fun call => FailureReaches sender m p call ∨ SuccessReaches sender m p call ∨
        CopiesFiles command m p call)

/-- The condition under which a telecommand is ended once. -/
def EndsOnce (sendTmPacket : Nat → Option Code) (sender : MessageQueueId) (message : FileMessage)
    (h : Handler) (course : Course) : Prop :=
  match message with
  | .reportFileAttributes fetched info o =>
    fetched ≠ .missing ∧ (fetched = .command () → info.Succeeds ∧ ¬ o.Succeeds)
  | .finishAppendToFile fetched lock info o =>
    (∃ lockFile, fetched = .command lockFile ∧ (lockFile = true → lock.Succeeds)) ∧ info.Succeeds ∧
      o.Succeeds ∧ sendTmPacket 0 = none
  | .copyFile copy =>
    (∀ command, copy.command = .ok command → h.stateMachine.internalState = .idle →
        CopyEndsOnce sender copy command h.stateMachine course) ∧
      (¬ CopyAccepted none copy h → copy.getData = none ∧ copy.size ≠ 0)
  | message => CompletesOnce message h

/-! ## Serving replies -/

section Serving

variable {sendTmPacket : Nat → Option Code} {replies : List Reply} {succeeds : Prop}

theorem serveReply_late (tm : Option Code) (reply : Reply) {s : CommandInfo} (h : s.ended ≠ []) :
    (serveReply tm reply s).ended ≠ [] ∧ (serveReply tm reply s).late = s.late ++ [reply] := by
  have hunrequested : (handleUnrequestedReply tm reply s).ended = s.ended ∧
      (handleUnrequestedReply tm reply s).late = s.late := by
    unfold handleUnrequestedReply forwardFileSystemReply
    cases reply with
    | readFinished storeId =>
        dsimp only
        split_ifs <;> exact ⟨rfl, rfl⟩
    | _ => exact ⟨rfl, rfl⟩
  unfold serveReply
  rw [if_neg h]
  refine ⟨?_, ?_⟩
  · dsimp only
    rw [hunrequested.1]
    exact h
  · dsimp only
    rw [hunrequested.2]

/-- Every reply behind the end of a command is late. -/
theorem serveReplies_late {replies : List Reply} :
    ∀ {sendTmPacket : Nat → Option Code} {s : CommandInfo}, s.ended ≠ [] →
      (serveReplies sendTmPacket replies s).late = s.late ++ replies := by
  induction replies with
  | nil => simp [serveReplies]
  | cons reply replies ih =>
      intro sendTmPacket s h
      obtain ⟨hended, hlate⟩ := serveReply_late (sendTmPacket 0) reply h
      rw [serveReplies, ih hended, hlate, List.append_assoc]
      rfl

theorem not_endedOnce_nil : ¬ EndedOnce sendTmPacket [] succeeds := by
  rintro ⟨⟨_, hended, _⟩, _⟩
  cases hended

/-- A reply that ends the command and another one behind it. -/
theorem not_endedOnce_cons {reply : Reply} (hne : replies ≠ [])
    (hends : (serveReply (sendTmPacket 0) reply (waiting (reply :: replies))).ended ≠ [])
    (hlate : (serveReply (sendTmPacket 0) reply (waiting (reply :: replies))).late = []) :
    ¬ EndedOnce sendTmPacket (reply :: replies) succeeds := by
  rintro ⟨_, hnone, _⟩
  rw [serveReplies, serveReplies_late hends, hlate, List.nil_append] at hnone
  exact hne hnone

theorem serveReply_completion (tm : Option Code) (m : CompletionMessage) (replies : List Reply) :
    serveReply tm (.completion m) (waiting replies) =
      { waiting replies with ended := [m.success] } := by
  obtain ⟨success, queueId, errorCode, errorParam⟩ := m
  cases success with
  | true => rfl
  | false => rfl

/-- A completion ends the command; behind another reply there is none to end. -/
theorem not_endedOnce_completion_cons {m : CompletionMessage} (hne : replies ≠ []) :
    ¬ EndedOnce sendTmPacket (.completion m :: replies) succeeds := by
  refine not_endedOnce_cons hne ?_ ?_
  · rw [serveReply_completion]
    exact List.cons_ne_nil _ _
  · rw [serveReply_completion]
    rfl

/-- Completions end a command once exactly if there is one, and it is true. -/
theorem endedOnce_map (ms : List CompletionMessage) :
    EndedOnce sendTmPacket (ms.map .completion) succeeds ↔
      CompletedOnce (ms.map .completion) succeeds := by
  unfold CompletedOnce
  rw [completions_map]
  cases ms with
  | nil => exact iff_of_false not_endedOnce_nil (by simp)
  | cons m ms =>
      cases ms with
      | nil =>
          have hserved : serveReplies sendTmPacket [.completion m] (waiting [.completion m]) =
              { waiting [.completion m] with ended := [m.success] } :=
            serveReply_completion (sendTmPacket 0) m [.completion m]
          unfold EndedOnce
          rw [List.map_singleton, hserved]
          simp [waiting, telemetryOf]
      | cons m' ms =>
          apply iff_of_false (not_endedOnce_completion_cons (List.cons_ne_nil _ _))
          rintro ⟨_, hm, _⟩
          cases hm

/-- The replies are completions only. -/
def OnlyCompletions (replies : List Reply) : Prop :=
  ∃ ms : List CompletionMessage, replies = ms.map .completion

theorem OnlyCompletions.endedOnce_iff (h : OnlyCompletions replies) :
    EndedOnce sendTmPacket replies succeeds ↔ CompletedOnce replies succeeds := by
  obtain ⟨ms, rfl⟩ := h
  exact endedOnce_map ms

/-- A reply with data that ends the command, and is forwarded if the packet can be sent. -/
theorem serveReply_data (tm : Option Code) {reply : Reply} {replies : List Reply}
    {subservice : Subservice} {storeId : Nat} (hmem : reply ∈ replies)
    (hdata : telemetryOf reply = some (subservice, storeId))
    (hstep : ∀ storeId, reply ≠ .readFromFile false storeId) :
    (serveReply tm reply (waiting replies)).ended = [true] ∧
      (serveReply tm reply (waiting replies)).late = [] ∧
      (serveReply tm reply (waiting replies)).telemetry =
        if tm = none then [(subservice, storeId)] else [] := by
  have hstored : (waiting replies).stored storeId = true := by
    refine decide_eq_true (List.mem_map.mpr ⟨(subservice, storeId), ?_, rfl⟩)
    exact List.mem_filterMap.mpr ⟨reply, hmem, hdata⟩
  unfold serveReply handleReply forwardFileSystemReply
  rw [if_pos (show (waiting replies).ended = [] from rfl)]
  cases reply with
  | completion m => cases hdata
  | readFromFile finished id =>
      cases hdata
      cases finished with
      | true =>
          dsimp only
          rw [if_pos hstored]
          exact ⟨rfl, rfl, rfl⟩
      | false => exact absurd rfl (hstep _)
  | reportFileAttributes id =>
      cases hdata
      dsimp only
      rw [if_pos hstored]
      exact ⟨rfl, rfl, rfl⟩
  | finishAppend id =>
      cases hdata
      dsimp only
      rw [if_pos hstored]
      exact ⟨rfl, rfl, rfl⟩
  | readFinished id =>
      cases hdata
      dsimp only
      rw [if_pos hstored]
      exact ⟨rfl, rfl, rfl⟩

end Serving

/-! ## The replies of the handlers -/

section Replies

variable {sendTmPacket : Nat → Option Code} {h : Handler} {fetched : Fetched Unit}

theorem onlyCompletions_nil : OnlyCompletions [] := ⟨[], rfl⟩

theorem onlyCompletions_success : OnlyCompletions [sendSuccess] := ⟨[successReply], rfl⟩

theorem onlyCompletions_failure (code : Code) (param : Nat) : OnlyCompletions [sendFailure code param] :=
  ⟨[failureReply code param], rfl⟩

theorem OnlyCompletions.append {replies replies' : List Reply} (h : OnlyCompletions replies)
    (h' : OnlyCompletions replies') : OnlyCompletions (replies ++ replies') := by
  obtain ⟨ms, rfl⟩ := h
  obtain ⟨ms', rfl⟩ := h'
  exact ⟨ms ++ ms', (List.map_append).symm⟩

/-- A command that cannot be fetched is not answered, or with one failure. -/
theorem onlyCompletions_fetched {α : Type} (handle : Fetched α → Handled)
    (hmissing : (handle .missing).replies = [])
    (hinvalid : ∀ code, (handle (.invalid code)).replies = [sendFailure code 0])
    (hcommand : ∀ a, OnlyCompletions (handle (.command a)).replies) (fetched : Fetched α) :
    OnlyCompletions (handle fetched).replies := by
  cases fetched with
  | missing =>
      rw [hmissing]
      exact onlyCompletions_nil
  | invalid code =>
      rw [hinvalid]
      exact onlyCompletions_failure code 0
  | command a => exact hcommand a

theorem handleCreateFileCommand_onlyCompletions (fetched : Fetched (List UInt8))
    (o : Api.CreateFileOutcome) :
    OnlyCompletions (handleCreateFileCommand fetched o).replies := by
  apply onlyCompletions_fetched (handleCreateFileCommand · o) rfl fun _ => rfl
  intro data
  dsimp only [handleCreateFileCommand]
  split
  · exact onlyCompletions_success
  · exact onlyCompletions_failure _ 0

theorem handleDeleteFileCommand_onlyCompletions (o : Api.DirectoryOutcome) :
    OnlyCompletions (handleDeleteFileCommand fetched o).replies := by
  apply onlyCompletions_fetched (handleDeleteFileCommand · o) rfl fun _ => rfl
  intro u
  dsimp only [handleDeleteFileCommand]
  split
  · exact onlyCompletions_success
  · exact onlyCompletions_failure _ 0

theorem handleCreateDirectoryCommand_onlyCompletions (o : Api.DirectoryOutcome) :
    OnlyCompletions (handleCreateDirectoryCommand fetched o).replies := by
  apply onlyCompletions_fetched (handleCreateDirectoryCommand · o) rfl fun _ => rfl
  intro u
  dsimp only [handleCreateDirectoryCommand]
  split
  · exact onlyCompletions_success
  · exact onlyCompletions_success
  · exact (onlyCompletions_failure _ 0).append onlyCompletions_success

theorem handleDeleteDirectoryCommand_onlyCompletions (o : Api.DirectoryOutcome) :
    OnlyCompletions (handleDeleteDirectoryCommand fetched o).replies := by
  apply onlyCompletions_fetched (handleDeleteDirectoryCommand · o) rfl fun _ => rfl
  intro u
  dsimp only [handleDeleteDirectoryCommand]
  split
  · exact onlyCompletions_success
  · exact onlyCompletions_failure _ 0

theorem handleLockFileCommand_onlyCompletions (lock : Bool) (o : Api.AttributeOutcome) :
    OnlyCompletions (handleLockFileCommand lock fetched o).replies := by
  have hchange : ∀ result replies, OnlyCompletions replies →
      OnlyCompletions (changeLock lock o result replies).replies := by
    intro result replies hreplies
    unfold changeLock
    dsimp only
    split_ifs
    · exact hreplies.append onlyCompletions_success
    · exact hreplies.append (onlyCompletions_failure _ _)
    · exact hreplies.append onlyCompletions_success
    · exact hreplies.append (onlyCompletions_failure _ _)
  unfold handleLockFileCommand
  cases fetched with
  | missing => exact onlyCompletions_nil
  | invalid code => exact hchange _ _ (onlyCompletions_failure code 0)
  | command u => exact hchange _ _ onlyCompletions_nil

theorem handleAppendCommand_onlyCompletions (message : Option Upload.AppendCommand) (e : Upload.Env)
    (w : Upload.Handler) : OnlyCompletions (handleAppendCommand message e w).1.replies := by
  have hreplies : ∀ result, OnlyCompletions (appendReplies result) := by
    intro result
    cases result with
    | ok => exact onlyCompletions_success
    | directory code => exact onlyCompletions_failure _ _
    | sequencePacketMissingWrite missing => exact onlyCompletions_failure _ _
    | fileDoesNotExist => exact onlyCompletions_failure _ _
    | fileLocked => exact onlyCompletions_failure _ _
    | failed => exact onlyCompletions_failure _ _
  unfold handleAppendCommand
  split
  · exact onlyCompletions_nil
  · exact hreplies _

theorem readAnswer_onlyCompletions {e : Download.Env} {content : List UInt8} {storeId : Nat}
    {answer : Download.Answer} {r r' : Download.Handler}
    (hrun : Download.handleReadCommand e content r = some (answer, r')) :
    OnlyCompletions (answer.replies.map (readReply storeId)) := by
  rcases handleReadCommand_answers hrun with ⟨_, hreplies⟩ | ⟨_, hreplies⟩
  · rw [hreplies]
    exact onlyCompletions_failure .bufferTooShort 0
  · rw [hreplies]
    exact onlyCompletions_nil

/-- The attributes end the command, so the completion behind them is late. -/
theorem handleReportAttributesCommand_endedOnce_iff {info : Api.FileInfoOutcome} {o : DataReplyOutcome} :
    EndedOnce sendTmPacket (handleReportAttributesCommand fetched info o).replies
        (Succeeds (.reportFileAttributes fetched info o) h) ↔
      fetched ≠ .missing ∧ (fetched = .command () → info.Succeeds ∧ ¬ o.Succeeds) := by
  have hinfo := Api.getFileInfo_eq_zero_iff (o := info)
  have hdata := dataReply_ok_iff (o := o)
  unfold handleReportAttributesCommand
  simp only [Succeeds]
  cases fetched with
  | missing => exact iff_of_false not_endedOnce_nil (by simp)
  | invalid code =>
      rw [(onlyCompletions_failure code 0).endedOnce_iff]
      simp
  | command u =>
      simp only [ne_eq, reduceCtorEq, not_false_eq_true, true_and, forall_const]
      by_cases hzero : (Api.getFileInfo info).1 = 0
      · rw [if_neg (not_not.mpr hzero)]
        cases hreply : dataReply o with
        | ok storeId =>
            -- the attributes return `RETURN_OK` without a step, the completion is behind
            have hsucceeds := hdata.mp ⟨storeId, hreply⟩
            refine iff_of_false ?_ (fun hall => hall.2 hsucceeds)
            have hmem : .reportFileAttributes storeId ∈
                [.reportFileAttributes storeId, sendSuccess] := List.mem_cons_self
            obtain ⟨hended, hlate, _⟩ := serveReply_data (sendTmPacket 0) hmem rfl
              (by simp)
            refine not_endedOnce_cons (List.cons_ne_nil _ _) ?_ hlate
            rw [hended]
            exact List.cons_ne_nil _ _
        | error code =>
            have hfails : ¬ o.Succeeds := not_succeeds_of_error hreply
            refine iff_of_true ?_ ⟨hinfo.mp hzero, hfails⟩
            exact (onlyCompletions_failure code 0).endedOnce_iff.mpr
              (completedOnce_failure.mpr fun hsucceeds => hfails hsucceeds.2)
      · rw [if_pos hzero]
        refine iff_of_false ?_ (fun hall => hzero (hinfo.mpr hall.1))
        cases hreply : dataReply o with
        | ok storeId => exact not_endedOnce_completion_cons (List.cons_ne_nil _ _)
        | error code => exact not_endedOnce_completion_cons (List.cons_ne_nil _ _)

/-- The data reply of a finished append ends the command, whatever became of the lock and the file. -/
theorem handleFinishAppendCommand_endedOnce_iff {fetched : Fetched Bool} {lock : Api.AttributeOutcome}
    {info : Api.FileInfoOutcome} {o : DataReplyOutcome} {w : Upload.Handler} :
    EndedOnce sendTmPacket (handleFinishAppendCommand fetched o w).1.replies
        (Succeeds (.finishAppendToFile fetched lock info o) h) ↔
      (∃ lockFile, fetched = .command lockFile ∧ (lockFile = true → lock.Succeeds)) ∧
        info.Succeeds ∧ o.Succeeds ∧ sendTmPacket 0 = none := by
  have hdata := dataReply_ok_iff (o := o)
  unfold handleFinishAppendCommand
  simp only [Succeeds]
  cases fetched with
  | missing => exact iff_of_false not_endedOnce_nil (by simp)
  | invalid code => exact iff_of_false not_endedOnce_nil (by simp)
  | command lockFile =>
      cases hreply : dataReply o with
      | error code =>
          apply iff_of_false not_endedOnce_nil
          rintro ⟨_, _, hsucceeds, _⟩
          exact not_succeeds_of_error hreply hsucceeds
      | ok storeId =>
          have hsucceeds := hdata.mp ⟨storeId, hreply⟩
          have hmem : Reply.finishAppend storeId ∈ [Reply.finishAppend storeId] :=
            List.mem_singleton_self _
          obtain ⟨hended, hlate, htelemetry⟩ := serveReply_data (sendTmPacket 0) hmem rfl
              (by simp)
          have hserved : ∀ s, EndedOnce sendTmPacket [.finishAppend storeId] s ↔
              s ∧ sendTmPacket 0 = none := by
            intro succeeds
            unfold EndedOnce
            rw [serveReplies, serveReplies]
            dsimp only
            rw [hended, hlate, htelemetry]
            by_cases htm : sendTmPacket 0 = none
            · simp [htm, telemetryOf]
            · simp [htm, telemetryOf]
          dsimp only
          rw [hserved]
          simp [hsucceeds, and_assoc]

end Replies

/-! ## Copy commands -/

section Copy

variable {sendTmPacket : Nat → Option Code} {sender : MessageQueueId} {copy : CopyFile.CopyMessage}
  {h : Handler} {course : Course}

theorem rejections_length_eq_one_iff :
    copy.rejections.length = 1 ↔ (copy.getData = none ↔ copy.size = 0) := by
  unfold CopyFile.CopyMessage.rejections
  cases copy.getData with
  | some result => by_cases hsize : copy.size = 0 <;> simp [hsize]
  | none => by_cases hsize : copy.size = 0 <;> simp [hsize]

/-- All rejections are failures. -/
theorem rejections_fail : ∀ m ∈ copy.rejections, m.success = false := by
  intro m hm
  unfold CopyFile.CopyMessage.rejections at hm
  rcases List.mem_append.mp hm with hm | hm
  · cases hdata : copy.getData with
    | some result =>
        rw [hdata] at hm
        obtain rfl := List.mem_singleton.mp hm
        rfl
    | none =>
        rw [hdata] at hm
        cases hm
  · split at hm
    · obtain rfl := List.mem_singleton.mp hm
      rfl
    · cases hm

/-- The rejections of an accepted command, and nothing behind them. -/
theorem completedOnce_silent {succeeds : Prop} :
    CompletedOnce (copy.rejections.map .completion) succeeds ↔
      copy.rejections.length = 1 ∧ ¬ succeeds := by
  unfold CompletedOnce
  rw [completions_map]
  constructor
  · rintro ⟨m, hm, htrue⟩
    have hfails : m.success = false := rejections_fail m (by rw [hm]; exact List.mem_singleton_self m)
    refine ⟨by rw [hm]; rfl, fun hsucceeds => ?_⟩
    rw [htrue.mpr hsucceeds] at hfails
    cases hfails
  · rintro ⟨hone, hfails⟩
    obtain ⟨m, hm⟩ := List.length_eq_one_iff.mp hone
    have hfalse : m.success = false := rejections_fail m (by rw [hm]; exact List.mem_singleton_self m)
    exact ⟨m, hm, iff_of_false (by simp [hfalse]) hfails⟩

/-- The rejections of an accepted command, and the message of the call that drives it. -/
theorem completedOnce_answered {m : CompletionMessage} {succeeds : Prop} :
    CompletedOnce ((copy.rejections ++ [m]).map .completion) succeeds ↔
      copy.rejections = [] ∧ (m.success = true ↔ succeeds) := by
  unfold CompletedOnce
  rw [completions_map]
  constructor
  · rintro ⟨m', hm', htrue⟩
    have hnone : copy.rejections = [] := by
      have hlength := congrArg List.length hm'
      rw [List.length_append] at hlength
      exact List.eq_nil_of_length_eq_zero (by simpa using hlength)
    rw [hnone, List.nil_append] at hm'
    obtain rfl := List.singleton_injective hm'
    exact ⟨hnone, htrue⟩
  · rintro ⟨hnone, htrue⟩
    exact ⟨m, by rw [hnone]; rfl, htrue⟩

theorem Driven.and_iff {meets meets' : CopyCall → Prop} :
    Driven course (fun call => meets call ∧ meets' call) ↔ Driven course meets ∧ Driven course meets' := by
  constructor
  · rintro ⟨hkept, call, hcall, hmeets, hmeets'⟩
    exact ⟨⟨hkept, call, hcall, hmeets⟩, hkept, call, hcall, hmeets'⟩
  · rintro ⟨⟨hkept, call, hcall, hmeets⟩, _, call', hcall', hmeets'⟩
    obtain rfl := Option.some.inj (hcall.symm.trans hcall')
    exact ⟨hkept, call, hcall, hmeets, hmeets'⟩

theorem Driven.or_iff {meets meets' : CopyCall → Prop} :
    Driven course (fun call => meets call ∨ meets' call) ↔ Driven course meets ∨ Driven course meets' := by
  unfold Driven
  rw [← and_or_left, ← exists_or]
  simp only [and_or_left]

/-- What the sender of a copy command is told by the call that drives it. -/
inductive Told (sender : MessageQueueId) (m : SDCHStateMachine) (p : Pending) (course : Course) :
    List CompletionMessage → Prop where
  | failure (message : CompletionMessage) (hreaches : Driven course (FailureReaches sender m p))
      (hfailure : message.success = false) : Told sender m p course [message]
  | success (message : CompletionMessage) (hreaches : Driven course (SuccessReaches sender m p))
      (hsuccess : message.success = true) : Told sender m p course [message]
  | nothing (hfailure : ¬ Driven course (FailureReaches sender m p))
      (hsuccess : ¬ Driven course (SuccessReaches sender m p)) : Told sender m p course []

/-- One message, if it goes to the sender. -/
theorem filter_receiver (partner sender : MessageQueueId) (message : CompletionMessage) :
    ([message].filter fun m => decide (m.receiver partner = sender)) =
      if message.receiver partner = sender then [message] else [] := by
  by_cases hsender : message.receiver partner = sender <;> simp [hsender]

/-- Driving a copy: whether it copies the files of the command, and what its sender is told. -/
theorem driveCopy_told {command : CopyFileCommand} {m : SDCHStateMachine} {p : Pending}
    {ms : List CompletionMessage} {copied : Option Copied} (hidle : m.internalState = .idle)
    (hp : p = (Pending.commanded sender command course.card).behind course.interim)
    (hrun : driveCopy sender course ((Pending.commanded sender command course.card).machine m) =
      some (ms, copied)) :
    (copied = some ⟨.operationFinished, source command, target command⟩ ↔
        Driven course (CopiesFiles command m p)) ∧
      Told sender m p course ms := by
  -- a copy that is not driven
  have hnot : (∀ meets, ¬ Driven course meets) →
      ((none : Option Copied) = some ⟨.operationFinished, source command, target command⟩ ↔
        Driven course (CopiesFiles command m p)) ∧ Told sender m p course [] :=
    fun hdriven => ⟨iff_of_false nofun (hdriven _), .nothing (hdriven _) (hdriven _)⟩
  unfold driveCopy at hrun
  rw [show (⟨(Pending.commanded sender command course.card).machine m, course.card, sender, []⟩ :
    CopyFile.Handler) = (Pending.commanded sender command course.card).handler m from rfl] at hrun
  by_cases hkept : CopyFile.NotCancelled course.interim
  · rw [CopyFile.wait_handler hidle hkept, ← hp] at hrun
    have hstate : (p.handler m).stateMachine.internalState = .copyFile :=
      Pending.machine_internalState hidle
    dsimp only at hrun
    rw [if_neg (by rw [hstate]; exact nofun)] at hrun
    cases hcall : course.call with
    | none =>
        rw [hcall] at hrun
        cases hrun
        refine hnot ?_
        rintro meets ⟨_, call, hsome, _⟩
        rw [hcall] at hsome
        cases hsome
    | some call =>
        rw [hcall] at hrun
        obtain ⟨answer, hanswer, heq⟩ := Option.map_eq_some_iff.mp hrun
        cases heq
        have hdriven : ∀ meets, Driven course meets ↔ meets call := by
          intro meets
          refine ⟨?_, fun hmeets => ⟨hkept, call, hcall, hmeets⟩⟩
          rintro ⟨_, call', hsome, hmeets⟩
          obtain rfl := Option.some.inj (hcall.symm.trans hsome)
          exact hmeets
        have hfiles : ∀ result, (some (Copied.mk result (p.handler m).stateMachine.source
            (p.handler m).stateMachine.target) =
            some ⟨.operationFinished, source command, target command⟩) ↔
            result = .operationFinished ∧ source p.command = source command ∧
              target p.command = target command := by
          intro result
          rw [show (p.handler m).stateMachine.source = source p.command from Pending.machine_source,
            show (p.handler m).stateMachine.target = target p.command from Pending.machine_target]
          simp
        rw [hfiles, hdriven (CopiesFiles command m p)]
        rcases CopyFile.continueCurrentOperation_cases hstate hanswer with
          ⟨hfails, message, hresult, hfailure, hqueue⟩ | ⟨hfinishes, hresult⟩ |
            ⟨hfails, hfinishes, hresult⟩
        · -- a failure, to the recipient
          have hends : ¬ CopyFile.CallFinishes call p.card (p.machine m) := fun h => h.not_fails hfails
          have hreceiver : message.receiver p.partner =
              if p.recipient = noQueue then p.partner else p.recipient := by
            rw [CompletionMessage.receiver, hqueue,
              show (p.handler m).stateMachine.currentRecipient = p.recipient from
                Pending.machine_currentRecipient]
          rw [hresult]
          refine ⟨iff_of_false (by simp) (fun h => hends h.1), ?_⟩
          rw [filter_receiver]
          split
          next hsender =>
            exact .failure message ((hdriven _).mpr ⟨hfails, hreceiver.symm.trans hsender⟩) hfailure
          next hother =>
            refine .nothing (fun h => ?_) (fun h => hends ((hdriven _).mp h).1)
            exact hother (hreceiver.trans ((hdriven _).mp h).2)
        · -- the end of the copy, to the last sender
          have hends : CopyFile.CallFinishes call p.card (p.machine m) := hfinishes
          rw [hresult]
          refine ⟨by simp [CopiesFiles, hends], ?_⟩
          rw [filter_receiver]
          split
          next hsender => exact .success _ ((hdriven _).mpr ⟨hends, hsender⟩) rfl
          next hother =>
            refine .nothing (fun h => hends.not_fails ((hdriven _).mp h).1) (fun h => ?_)
            exact hother ((hdriven _).mp h).2
        · -- nothing is sent
          have hnone : answer.1.2 = [] ∧ answer.1.1 ≠ .operationFinished := by
            rcases hresult with hresult | hresult <;> simp [hresult]
          refine ⟨iff_of_false (fun h => hnone.2 h.1) (fun h => hfinishes h.1), ?_⟩
          rw [hnone.1, List.filter_nil]
          exact .nothing (fun h => hfails ((hdriven _).mp h).1) (fun h => hfinishes ((hdriven _).mp h).1)
  · have hcancelled := CopyFile.wait_idle (p := Pending.commanded sender command course.card) hidle hkept
    dsimp only at hrun
    rw [if_pos hcancelled] at hrun
    cases hrun
    exact hnot fun meets hdriven => hkept hdriven.1

/-- A copy command that the state machine accepts. -/
theorem accepted_endedOnce_iff {command : CopyFileCommand} {m : SDCHStateMachine}
    {ms : List CompletionMessage} {copied : Option Copied} (hidle : m.internalState = .idle)
    (hrun : driveCopy sender course ((Pending.commanded sender command course.card).machine m) =
      some (ms, copied)) :
    EndedOnce sendTmPacket ((copy.rejections ++ ms).map .completion)
        (copied = some ⟨.operationFinished, source command, target command⟩) ↔
      CopyEndsOnce sender copy command m course := by
  obtain ⟨hcopies, htold⟩ := driveCopy_told hidle rfl hrun
  unfold CopyEndsOnce
  simp only [Driven.or_iff, Driven.and_iff]
  rw [endedOnce_map]
  -- a failure and a success do not both reach the sender
  have hexclusive : Driven course (FailureReaches sender m
        ((Pending.commanded sender command course.card).behind course.interim)) →
      ¬ Driven course (CopiesFiles command m
        ((Pending.commanded sender command course.card).behind course.interim)) := by
    rintro ⟨_, call, hcall, hfails, _⟩ ⟨_, call', hcall', hfinishes, _⟩
    obtain rfl := Option.some.inj (hcall.symm.trans hcall')
    exact hfinishes.not_fails hfails
  cases htold with
  | failure message hreaches hfailure =>
      rw [completedOnce_answered, CopyFile.CopyMessage.rejections_eq_nil_iff, hcopies]
      simp [hreaches, hfailure, hexclusive hreaches]
  | success message hreaches hsuccess =>
      rw [completedOnce_answered, CopyFile.CopyMessage.rejections_eq_nil_iff, hcopies]
      have hfails : ¬ Driven course (FailureReaches sender m
          ((Pending.commanded sender command course.card).behind course.interim)) := by
        rintro ⟨_, call, hcall, hfails, _⟩
        obtain ⟨_, call', hcall', hfinishes, _⟩ := hreaches
        obtain rfl := Option.some.inj (hcall.symm.trans hcall')
        exact hfinishes.not_fails hfails
      simp [hreaches, hsuccess, hfails, and_assoc]
  | nothing hfailure hsuccess =>
      rw [List.append_nil, completedOnce_silent, rejections_length_eq_one_iff, hcopies]
      simp [hfailure, hsuccess]

/-- A copy command. -/
theorem repliesTo_copy_endedOnce_iff {replies : List Reply} {copied : Option Copied}
    (hrun : repliesTo none sender (.copyFile copy) h course = some (replies, copied)) :
    EndedOnce sendTmPacket replies (OperationSucceeds none (.copyFile copy) h copied) ↔
      EndsOnce sendTmPacket sender (.copyFile copy) h course := by
  simp only [EndsOnce, OperationSucceeds, CopyAccepted, true_and]
  unfold repliesTo handleFirstMessage handleFileMessage at hrun
  dsimp only at hrun
  rcases CopyFile.handleCopyCommand_cases sender copy h.stateMachine with
    ⟨command, hcommand, hidle, haccepted, _, _, hreplies⟩ |
      ⟨command, hcommand, hbusy, haccepted, _, _, hreplies⟩ |
      ⟨⟨code, hcommand, hreplies⟩, haccepted, _⟩
  · rw [if_pos haccepted, hreplies] at hrun
    obtain ⟨⟨ms, driven⟩, hdrive, heq⟩ := Option.map_eq_some_iff.mp hrun
    cases heq
    have hmachine : (handleCopyCommand sender copy h.stateMachine).2.2 =
        (Pending.commanded sender command course.card).machine h.stateMachine := by
      simp only [handleCopyCommand, hcommand]
      rfl
    rw [hmachine] at hdrive
    rw [← List.map_append]
    simp only [hcommand, Except.ok.injEq, exists_eq_left', forall_eq', hidle]
    rw [accepted_endedOnce_iff hidle hdrive]
    simp
  · -- refused: nothing is driven, and nothing can succeed
    rw [if_neg (by simp [haccepted]), hreplies] at hrun
    cases hrun
    rw [endedOnce_map, eq_false (by simp : ¬ ∃ command, copy.command = .ok command ∧
      (none : Option Copied) = some ⟨.operationFinished, source command, target command⟩),
      completedOnce_rejections]
    simp [hbusy]
  · rw [if_neg (by simp [haccepted]), hreplies] at hrun
    cases hrun
    rw [endedOnce_map, eq_false (by simp : ¬ ∃ command, copy.command = .ok command ∧
      (none : Option Copied) = some ⟨.operationFinished, source command, target command⟩),
      completedOnce_rejections]
    simp [hcommand]

end Copy

/-! ## Main result -/

section

variable {sendTmPacket : Nat → Option Code} {sender : MessageQueueId} {message : FileMessage}
  {h : Handler} {course : Course} {replies : List Reply} {copied : Option Copied}

theorem repliesTo_endedOnce_iff (hsent : subserviceOf message ≠ none)
    (hrun : repliesTo none sender message h course = some (replies, copied)) :
    EndedOnce sendTmPacket replies (OperationSucceeds none message h copied) ↔
      EndsOnce sendTmPacket sender message h course := by
  -- one handler for each message; only a copy goes on behind the command
  cases message with
  | createFile fetched o =>
      cases hrun
      simp only [OperationSucceeds, true_and]
      rw [(handleCreateFileCommand_onlyCompletions fetched o).endedOnce_iff]
      exact handleCreateFileCommand_completed_iff
  | deleteFile fetched o =>
      cases hrun
      simp only [OperationSucceeds, true_and]
      rw [(handleDeleteFileCommand_onlyCompletions o).endedOnce_iff]
      exact handleDeleteFileCommand_completed_iff
  | reportFileAttributes fetched info o =>
      cases hrun
      simp only [OperationSucceeds, true_and]
      exact handleReportAttributesCommand_endedOnce_iff
  | createDirectory fetched o =>
      cases hrun
      simp only [OperationSucceeds, true_and]
      rw [(handleCreateDirectoryCommand_onlyCompletions o).endedOnce_iff]
      exact handleCreateDirectoryCommand_completed_iff
  | deleteDirectory fetched o =>
      cases hrun
      simp only [OperationSucceeds, true_and]
      rw [(handleDeleteDirectoryCommand_onlyCompletions o).endedOnce_iff]
      exact handleDeleteDirectoryCommand_completed_iff
  | lockFile lock fetched o =>
      cases hrun
      simp only [OperationSucceeds, true_and]
      rw [(handleLockFileCommand_onlyCompletions lock o).endedOnce_iff]
      exact handleLockFileCommand_completed_iff
  | appendToFile message e =>
      cases hrun
      simp only [OperationSucceeds, true_and]
      rw [(handleAppendCommand_onlyCompletions message e h.write).endedOnce_iff]
      exact handleAppendCommand_completed_iff
  | finishAppendToFile fetched lock info o =>
      cases hrun
      simp only [OperationSucceeds, true_and]
      exact handleFinishAppendCommand_endedOnce_iff
  | copyFile copy => exact repliesTo_copy_endedOnce_iff hrun
  | moveFile => exact absurd rfl hsent
  | readFromFile e content storeId =>
      unfold repliesTo handleFirstMessage handleFileMessage at hrun
      dsimp only at hrun
      cases hread : Download.handleReadCommand e content h.read with
      | none =>
          rw [hread] at hrun
          cases hrun
      | some read =>
          obtain ⟨answer, r⟩ := read
          rw [hread] at hrun
          cases hrun
          simp only [OperationSucceeds, true_and]
          rw [(readAnswer_onlyCompletions hread).endedOnce_iff]
          exact readAnswer_completed_iff hread
  | unknown => exact absurd rfl hsent

end

/-! ## Three telecommands -/

/-- A telecommand to delete a file, which works. -/
def deleteFile : Telecommand where
  message := .deleteFile (.command ()) ⟨0, 0⟩
  subservice := .cmdDeleteFile
  sent := rfl
  valid := rfl

/-- A telecommand to copy a file. -/
def copyFile : Telecommand where
  message := .copyFile CopyFile.exampleMessage
  subservice := .cmdCopyFile
  sent := rfl
  valid := rfl

/-- A telecommand to report the attributes of a file, which works. -/
def reportFileAttributes : Telecommand where
  message := .reportFileAttributes (.command ()) ⟨0, 0, 0⟩ ⟨.ok 7, none, none⟩
  subservice := .cmdReportFileAttributes
  sent := rfl
  valid := rfl

/-- Two messages from other queues come in between, one of which is dropped, and the directory to copy to
    is not there. -/
def lateCourse : Course where
  card := cardWith CopyFile.exampleSource CopyFile.oneByte
  interim := [.handled (.file 2 deleteFile.message (cardWith CopyFile.exampleSource CopyFile.oneByte)),
    .dropped (.file 3 .moveFile Cycle.emptyCard)]
  call := some { CopyFile.smoothCall false with changeTarget := 1 }

end Service23
end Pus
end Obsw
