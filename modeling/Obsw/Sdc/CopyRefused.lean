import Obsw.Sdc.CopyReply

/-!
# `Sdc.CopyRefused` — a copy command while a copy is running

`setCopyFileOperation` takes over the paths, the names and the recipient of a request before it looks
whether the state machine is idle. A request that is refused for being busy has then already redirected
the copy that keeps it busy: to other files, and to another recipient (`refused_request_redirects`).
Nothing changes only if the request is for the running copy itself (`refused_keeps_iff`).
-/

namespace Obsw
namespace Sdc
namespace CopyFile

/-- The command is one for the copy that the state machine has, from its recipient. -/
structure CopyFileCommand.Repeats (command : CopyFileCommand) (sender : MessageQueueId)
    (m : SDCHStateMachine) : Prop where
  source : m.source = (command.sourcePath, command.sourceName)
  target : m.target = (command.targetPath, command.targetName)
  recipient : m.currentRecipient = sender

/-- A request is refused while an operation is running. -/
theorem setCopyFileOperation_refuses {m : SDCHStateMachine} (hbusy : m.internalState ≠ .idle)
    (sourceRepo sourceName targetRepo targetName : String) (recipient : MessageQueueId) :
    m.setCopyFileOperation sourceRepo sourceName targetRepo targetName recipient =
      (false, { m with
        path1 := sourceRepo
        fileName1 := sourceName
        path2 := targetRepo
        fileName2 := targetName
        currentRecipient := recipient }) :=
  if_pos hbusy

/-- What a refused request leaves behind is what was there exactly if it asks for the same. -/
theorem redirected_eq_iff {m : SDCHStateMachine} {command : CopyFileCommand} {sender : MessageQueueId} :
    { m with
      path1 := command.sourcePath
      fileName1 := command.sourceName
      path2 := command.targetPath
      fileName2 := command.targetName
      currentRecipient := sender } = m ↔ command.Repeats sender m := by
  constructor
  · intro heq
    rw [← heq]
    exact ⟨rfl, rfl, rfl⟩
  · rintro ⟨hsource, htarget, hrecipient⟩
    obtain ⟨hpath1, hname1⟩ := Prod.mk.inj hsource
    obtain ⟨hpath2, hname2⟩ := Prod.mk.inj htarget
    rw [← hpath1, ← hname1, ← hpath2, ← hname2, ← hrecipient]

/-- **A copy command while an operation is running.** The request is refused; the state machine is left as
    it was exactly if the message has no request in it or repeats that of the running operation. -/
theorem refused_keeps_iff {m : SDCHStateMachine} (hbusy : m.internalState ≠ .idle)
    (sender : MessageQueueId) (message : CopyMessage) :
    (handleCopyCommand sender message m).2.1 = false ∧
      ((handleCopyCommand sender message m).2.2 = m ↔
        ∀ command, message.command = .ok command →
          (m.setCopyFileOperation command.sourcePath command.sourceName command.targetPath
            command.targetName sender).2 = m) ∧
      ((handleCopyCommand sender message m).2.2 = m ↔
        ∀ command, message.command = .ok command → command.Repeats sender m) := by
  unfold handleCopyCommand
  cases hcommand : message.command with
  | error result => simp
  | ok command =>
      simp only [setCopyFileOperation_refuses hbusy, redirected_eq_iff, Except.ok.injEq, forall_eq']
      simp

/-- A command to copy another file. -/
def otherMessage : CopyMessage where
  getData := none
  size := 20
  command := .ok ⟨"LOGS", "B.BIN", "LOGS", "C.BIN"⟩

/-- The running copy for queue 1 is the one of the example message, which keeps it. -/
theorem repeated_request_keeps :
    exampleCopy.internalState ≠ .idle ∧ (handleCopyCommand 1 exampleMessage exampleCopy).2.2 = exampleCopy := by
  have hbusy : exampleCopy.internalState ≠ .idle := by decide
  refine ⟨hbusy, ((refused_keeps_iff hbusy 1 exampleMessage).2.2).mpr fun command hcommand => ?_⟩
  obtain rfl := Except.ok.inj hcommand
  exact ⟨rfl, rfl, rfl⟩

/-- **A refused request redirects the running copy.** It goes on with the files of the request, and its
    completion is for queue 2. -/
theorem refused_request_redirects :
    (handleCopyCommand 2 otherMessage exampleCopy).1 = [failureReply .isBusy 0] ∧
    (handleCopyCommand 2 otherMessage exampleCopy).2.2 =
      { exampleCopy with
        path1 := "LOGS"
        fileName1 := "B.BIN"
        path2 := "LOGS"
        fileName2 := "C.BIN"
        currentRecipient := 2 } ∧
    ¬ ∀ (m : SDCHStateMachine) (sender : MessageQueueId) (message : CopyMessage),
      m.internalState ≠ .idle → (handleCopyCommand sender message m).2.2 = m := by
  refine ⟨rfl, rfl, fun hkeeps => ?_⟩
  have hrecipient := congrArg SDCHStateMachine.currentRecipient
    (hkeeps exampleCopy 2 otherMessage (by decide))
  exact absurd hrecipient (by decide)

end CopyFile
end Sdc
end Obsw
