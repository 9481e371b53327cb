import Obsw.Lib.Requests
import Obsw.Sdc.CopyFile

/-!
# `Sdc.CopyReply` — the completion of a copy command

`handleCopyCommand` and `driveStateMachine` of the SD card handler, in any order and with other file
commands between them. The log of a run holds the copy commands, whether the state machine accepted
them, and the completion messages, each with the queue it was sent to.
-/

namespace Obsw
namespace Sdc
namespace CopyFile

open Loop Requests

/-! ## `handleCopyCommand` -/

/-- `CopyFileCommand`. -/
structure CopyFileCommand where
  sourcePath : String
  sourceName : String
  targetPath : String
  targetName : String

/-- A message with a copy command: the error of the store, the size of the data, and what `deSerialize`
    makes of it. -/
structure CopyMessage where
  getData : Option Code
  size : Nat
  command : Except Code CopyFileCommand

/-- The two rejections at the start of `handleCopyCommand`, which do not return. -/
def CopyMessage.rejections (message : CopyMessage) : List CompletionMessage :=
  (match message.getData with
    | some result => [failureReply result 0]
    | none => []) ++
  if message.size = 0 then [failureReply .invalidParameters 0] else []

/-- `handleCopyCommand`, for the sender of the message: the completion messages, whether the state machine
    accepted the command, and the state machine. -/
def handleCopyCommand (sender : MessageQueueId) (message : CopyMessage) (m : SDCHStateMachine) :
    List CompletionMessage × Bool × SDCHStateMachine :=
  match message.command with
  | .error result => (message.rejections ++ [failureReply result 0], false, m)
  | .ok command =>
    let set := m.setCopyFileOperation command.sourcePath command.sourceName command.targetPath
      command.targetName sender
    (if set.1 then message.rejections else message.rejections ++ [failureReply .isBusy 0],
      set.1, set.2)

theorem CopyMessage.rejections_eq_nil_iff {message : CopyMessage} :
    message.rejections = [] ↔ message.getData = none ∧ message.size ≠ 0 := by
  unfold CopyMessage.rejections
  cases message.getData with
  | some result => simp
  | none => simp

/-! ## The handler -/

/-- A completion message and the queue it was sent to. -/
structure Sent where
  receiver : MessageQueueId
  message : CompletionMessage
  deriving DecidableEq, Repr

/-- An entry of the log. -/
inductive Entry where
  | command (sender : MessageQueueId) (accepted : Bool) (sent : List Sent)
  | driven (result : Result) (sent : List Sent)
  deriving DecidableEq, Repr

/-- The state machine, the card, the sender of the message received last, and the log. -/
structure Handler where
  stateMachine : SDCHStateMachine
  card : Card
  lastPartner : MessageQueueId
  log : List Entry

/-- The handler at startup. -/
def Handler.initial (card : Card) : Handler := ⟨.initial, card, noQueue, []⟩

/-- `sendCompletionMessage`. -/
def send (lastPartner : MessageQueueId) (messages : List CompletionMessage) : List Sent :=
  messages.map fun m => ⟨m.receiver lastPartner, m⟩

/-- What happens to the handler: a copy command or another file command arrives, or the state machine is
    driven. Another command changes the card as it likes, and not the state machine. A sender has a
    queue. -/
inductive Event where
  | copyCommand (sender : MessageQueueId) (real : sender ≠ noQueue) (message : CopyMessage)
  | otherCommand (sender : MessageQueueId) (card : Card)
  | drive (call : CopyCall)

/-- `driveStateMachine`. -/
def driveStateMachine (call : CopyCall) (h : Handler) : Option Handler :=
  match continueCurrentOperation call h.stateMachine h.card with
  | none => none
  | some ((result, messages), m, card) =>
    some { h with
      stateMachine :=
        if result = .operationFinished then m.resetAndSetToIdle
        else if result ≠ .returnOk then m.resetAndSetToIdle
        else m
      card := card
      log := h.log ++ [.driven result (send h.lastPartner messages)] }

def step (event : Event) (h : Handler) : Option (Flow Unit Handler) :=
  match event with
  | .copyCommand sender _ message =>
    let handled := handleCopyCommand sender message h.stateMachine
    some (.next { h with
      stateMachine := handled.2.2
      lastPartner := sender
      log := h.log ++ [.command sender handled.2.1 (send sender handled.1)] })
  | .otherCommand sender card => some (.next { h with lastPartner := sender, card := card })
  | .drive call => (driveStateMachine call h).map .next

/-- The events one after the other. -/
def runEvents (events : List Event) (h : Handler) : Option Handler :=
  passes (fun _ => true) step events h

/-! ## What the requesters are told -/

/-- The accepted copy commands, by requester, and the completions for them. -/
def Entry.events : Entry → List (Requests.Event MessageQueueId Sent)
  | .command sender accepted sent => if accepted then .request sender :: sent.map .answer else []
  | .driven _ sent => sent.map .answer

def conversation (log : List Entry) : List (Requests.Event MessageQueueId Sent) :=
  log.flatMap Entry.events

/-- Each accepted command has been completed once, by a message to its requester and before the next one
    was accepted; the last one has not been completed exactly if the copy is running. -/
def Answered (h : Handler) : Prop :=
  ∃ pending, Serves (fun requester sent => sent.receiver = requester) none (conversation h.log) pending ∧
    (pending.isSome ↔ h.stateMachine.internalState = .copyFile)

theorem conversation_snoc (log : List Entry) (entry : Entry) :
    conversation (log ++ [entry]) = conversation log ++ entry.events := by
  simp [conversation]

/-! ## The condition on a run -/

/-- A copy command that reaches the state machine has data, and comes when it is idle or from the
    requester of the running copy. -/
def CommandGood (sender : MessageQueueId) (message : CopyMessage) (m : SDCHStateMachine) : Prop :=
  ∀ command, message.command = .ok command →
    if m.internalState = .idle then message.getData = none ∧ message.size ≠ 0
    else sender = m.currentRecipient

/-- The source can be opened at the byte index. -/
structure Prepares (call : CopyCall) (card : Card) (m : SDCHStateMachine) : Prop where
  changeSource : call.changeSource = 0
  length : m.stepCounter = 0 → call.lengthFails = false
  openSource : call.openSourceFails = false
  exists_source : card m.source ≠ none
  seek : call.seek = 0

/-- The pass reads or writes less than it should. -/
def CutShort (pass : CopyPass) (s : CopyLoop) : Prop :=
  (fRead s.readFile s.sizeToCopy pass.readGot).1.length ≠ s.sizeToCopy ∨
    min s.sizeToCopy pass.accepted ≠ s.sizeToCopy

/-- The passes of a call until one of them is cut short, none of them interrupted. If none is cut short,
    `atEnd` is demanded. -/
def PassesGood (atEnd : Prop) : List CopyPass → CopyLoop → Prop
  | [],             s => copyGoesOn s = false → atEnd
  | pass :: passes, s =>
    if copyGoesOn s then
      CutShort pass s ∨ (pass.timedOut = false ∧ PassesGood atEnd passes (s.advance pass))
    else atEnd

/-- A call prepares the copy, and reports that it fails or ends the copy in its time; no other command has
    been received since the copy command if it ends the copy. -/
def DriveGood (call : CopyCall) (h : Handler) : Prop :=
  h.stateMachine.internalState = .copyFile →
    let m := cacheFileSize h.card h.stateMachine
    Prepares call h.card h.stateMachine ∧
      (call.changeTarget ≠ 0 ∨ call.openTargetFails = true ∨
        PassesGood (h.lastPartner = m.currentRecipient) call.passes
          ⟨⟨fileBytes h.card m.source, m.currentByteIdx⟩, m, openTarget call h.card m⟩)

/-- The condition on an event. -/
def EventGood (event : Event) (h : Handler) : Prop :=
  match event with
  | .copyCommand sender _ message => CommandGood sender message h.stateMachine
  | .otherCommand _ _ => True
  | .drive call => DriveGood call h

/-! ## A command -/

section

variable {h h' : Handler}

/-- A command that is not accepted leaves a state machine that is idle alone, and gives a running copy the
    sender as its recipient. -/
theorem handleCopyCommand_cases (sender : MessageQueueId) (message : CopyMessage)
    (m : SDCHStateMachine) :
    (∃ command, message.command = .ok command ∧ m.internalState = .idle ∧
        (handleCopyCommand sender message m).2.1 = true ∧
        (handleCopyCommand sender message m).2.2.internalState = .copyFile ∧
        (handleCopyCommand sender message m).2.2.currentRecipient = sender ∧
        (handleCopyCommand sender message m).1 = message.rejections) ∨
      (∃ command, message.command = .ok command ∧ m.internalState ≠ .idle ∧
        (handleCopyCommand sender message m).2.1 = false ∧
        (handleCopyCommand sender message m).2.2.internalState = m.internalState ∧
        (handleCopyCommand sender message m).2.2.currentRecipient = sender ∧
        (handleCopyCommand sender message m).1 = message.rejections ++ [failureReply .isBusy 0]) ∨
      ((∃ result, message.command = .error result ∧
        (handleCopyCommand sender message m).1 = message.rejections ++ [failureReply result 0]) ∧
        (handleCopyCommand sender message m).2.1 = false ∧
        (handleCopyCommand sender message m).2.2 = m) := by
  unfold handleCopyCommand SDCHStateMachine.setCopyFileOperation
  cases hcommand : message.command with
  | error result => exact .inr (.inr ⟨⟨result, rfl, rfl⟩, rfl, rfl⟩)
  | ok command =>
      by_cases hidle : m.internalState = .idle
      · refine .inl ⟨command, rfl, hidle, ?_⟩
        simp [hidle]
      · refine .inr (.inl ⟨command, rfl, hidle, ?_⟩)
        simp [hidle]

/-! ## Driving the state machine -/

theorem prepareCopyFileInformation_of_prepares {call : CopyCall} {card : Card} {m : SDCHStateMachine}
    (h : Prepares call card m) :
    prepareCopyFileInformation call card m =
      (some ⟨fileBytes card (cacheFileSize card m).source, (cacheFileSize card m).currentByteIdx⟩,
        cacheFileSize card m) := by
  have hsource : (cacheFileSize card m).source = m.source := by
    unfold cacheFileSize
    split_ifs <;> rfl
  have hlength : ¬ (m.stepCounter = 0 ∧ call.lengthFails = true) := by
    rintro ⟨hcounter, hfails⟩
    rw [h.length hcounter] at hfails
    cases hfails
  unfold prepareCopyFileInformation
  rw [if_neg (by simp [h.changeSource]), if_neg hlength]
  dsimp only
  rw [hsource, if_neg (by simp [h.openSource, h.exists_source]), if_neg (by simp [h.seek])]

/-- A pass that is cut short ends the copy with a message to the recipient. -/
theorem copyPass_cutShort {pass : CopyPass} {s : CopyLoop} (hcut : CutShort pass s) :
    ∃ s' message, copyPass pass s = some (.ret (.returnFailed, [message]) s') ∧
      message.success = false ∧ message.queueId = s.machine.currentRecipient := by
  unfold copyPass
  by_cases hread : (fRead s.readFile s.sizeToCopy pass.readGot).1.length = s.sizeToCopy
  · have hwrite := hcut.resolve_left (not_not.mpr hread)
    rw [if_neg (not_not.mpr hread), if_pos hwrite]
    exact ⟨_, _, rfl, rfl, rfl⟩
  · rw [if_pos hread]
    exact ⟨_, _, rfl, rfl, rfl⟩

/-- Passes that are not interrupted end with the copy, or with one message to the recipient. -/
theorem copyLoop_answers {atEnd : Prop} {passes : List CopyPass} :
    ∀ {s : CopyLoop} {flow : Flow Outcome CopyLoop}, PassesGood atEnd passes s →
      whileLoop copyGoesOn copyPass passes s = some flow →
      (atEnd ∧ ∃ s', flow = .next s') ∨
        ∃ s' message, flow = .ret (.returnFailed, [message]) s' ∧
          message.success = false ∧ message.queueId = s.machine.currentRecipient := by
  induction passes with
  | nil =>
      intro s flow hgood hrun
      by_cases hmore : copyGoesOn s = true
      · simp [whileLoop, hmore] at hrun
      · rw [whileLoop_exit (by simpa using hmore)] at hrun
        cases hrun
        exact .inl ⟨hgood (by simpa using hmore), s, rfl⟩
  | cons pass passes ih =>
      intro s flow hgood hrun
      unfold PassesGood at hgood
      by_cases hmore : copyGoesOn s = true
      · rw [if_pos hmore] at hgood
        rcases hgood with hcut | ⟨htime, hrest⟩
        · obtain ⟨s', message, hpass, hqueue⟩ :=
            copyPass_cutShort hcut
          rw [whileLoop_ret hmore hpass] at hrun
          cases hrun
          exact .inr ⟨s', message, rfl, hqueue⟩
        · -- a pass within its time may be cut short as well
          by_cases hcut : CutShort pass s
          · obtain ⟨s', message, hpass, hqueue⟩ := copyPass_cutShort hcut
            rw [whileLoop_ret hmore hpass] at hrun
            cases hrun
            exact .inr ⟨s', message, rfl, hqueue⟩
          · obtain ⟨hread, hwrite⟩ := not_or.mp hcut
            have hpass := copyPass_complete (not_not.mp hread) (by omega)
            rw [if_neg (by simp [htime])] at hpass
            rw [whileLoop_next hmore hpass] at hrun
            have hloop := ih hrest hrun
            exact hloop
      · rw [if_neg hmore] at hgood
        rw [whileLoop_exit (by simpa using hmore)] at hrun
        cases hrun
        exact .inl ⟨hgood, s, rfl⟩

theorem cacheFileSize_currentRecipient (card : Card) (m : SDCHStateMachine) :
    (cacheFileSize card m).currentRecipient = m.currentRecipient := by
  unfold cacheFileSize
  split_ifs <;> rfl

/-! ## What a call may do -/

/-- The state in which the copy loop of a call starts. -/
def loopStart (call : CopyCall) (card : Card) (m : SDCHStateMachine) : CopyLoop :=
  let m := cacheFileSize card m
  ⟨⟨fileBytes card m.source, m.currentByteIdx⟩, m, openTarget call card m⟩

/-- The condition under which a call reports a failure: it is prepared, and the target cannot be opened or
    a pass before any time-out is cut short. -/
def CallFails (call : CopyCall) (card : Card) (m : SDCHStateMachine) : Prop :=
  Prepares call card m ∧
    (call.changeTarget ≠ 0 ∨ call.openTargetFails = true ∨
      PassesGood False call.passes (loopStart call card m))

/-- The condition under which a call ends the copy: it is prepared, the target can be opened, and no pass
    is interrupted or cut short. -/
def CallFinishes (call : CopyCall) (card : Card) (m : SDCHStateMachine) : Prop :=
  Prepares call card m ∧ call.changeTarget = 0 ∧ call.openTargetFails = false ∧
    PassesGood True call.passes (loopStart call card m) ∧
    ¬ PassesGood False call.passes (loopStart call card m)

theorem prepareCopyFileInformation_of_not_prepares {call : CopyCall} {card : Card}
    {m : SDCHStateMachine} (h : ¬ Prepares call card m) :
    (prepareCopyFileInformation call card m).1 = none := by
  have hsource : (cacheFileSize card m).source = m.source := by
    unfold cacheFileSize
    split_ifs <;> rfl
  unfold prepareCopyFileInformation
  by_cases hchange : call.changeSource = 0
  · rw [if_neg (not_not.mpr hchange)]
    by_cases hlength : m.stepCounter = 0 ∧ call.lengthFails = true
    · rw [if_pos hlength]
    · rw [if_neg hlength]
      dsimp only
      rw [hsource]
      by_cases hopen : call.openSourceFails = true ∨ card m.source = none
      · rw [if_pos hopen]
      · rw [if_neg hopen]
        by_cases hseek : call.seek = 0
        · obtain ⟨hopens, hexists⟩ := not_or.mp hopen
          have hreadable : m.stepCounter = 0 → call.lengthFails = false := by
            intro hcounter
            simpa [hcounter] using hlength
          exact absurd ⟨hchange, hreadable, by simpa using hopens, hexists, hseek⟩ h
        · rw [if_pos hseek]
  · rw [if_pos hchange]

theorem PassesGood.mono {atEnd atEnd' : Prop} (himp : atEnd → atEnd') {passes : List CopyPass} :
    ∀ {s : CopyLoop}, PassesGood atEnd passes s → PassesGood atEnd' passes s := by
  induction passes with
  | nil => exact fun h hend => himp (h hend)
  | cons pass passes ih =>
      intro s h
      unfold PassesGood at h ⊢
      split_ifs at h ⊢
      · exact h.imp id (fun hgood => ⟨hgood.1, ih hgood.2⟩)
      · exact himp h

theorem PassesGood.end_of_not_false {atEnd : Prop} {passes : List CopyPass} {s : CopyLoop}
    (hgood : PassesGood atEnd passes s) (hends : ¬ PassesGood False passes s) : atEnd := by
  by_contra hnot
  exact hends (hgood.mono hnot)

/-- Passes of which none is cut short before the first that is interrupted end the copy, or end without a
    message. -/
theorem copyLoop_silent {atEnd : Prop} {passes : List CopyPass} :
    ∀ {s : CopyLoop} {flow : Flow Outcome CopyLoop}, ¬ PassesGood atEnd passes s →
      whileLoop copyGoesOn copyPass passes s = some flow →
      (¬ atEnd ∧ ∃ s', flow = .next s') ∨ ∃ s', flow = .ret (.taskPeriodOverSoon, []) s' := by
  induction passes with
  | nil =>
      intro s flow hbad hrun
      unfold PassesGood at hbad
      obtain ⟨hmore, hnot⟩ := Classical.not_imp.mp hbad
      rw [whileLoop_exit hmore] at hrun
      cases hrun
      exact .inl ⟨hnot, s, rfl⟩
  | cons pass passes ih =>
      intro s flow hbad hrun
      unfold PassesGood at hbad
      by_cases hmore : copyGoesOn s = true
      · rw [if_pos hmore, not_or] at hbad
        obtain ⟨hwhole, hstops⟩ := hbad
        obtain ⟨hread, hwrite⟩ := not_or.mp hwhole
        have hpass := copyPass_complete (not_not.mp hread) (by omega)
        by_cases htime : pass.timedOut = true
        · rw [if_pos htime] at hpass
          rw [whileLoop_ret hmore hpass] at hrun
          cases hrun
          exact .inr ⟨_, rfl⟩
        · rw [if_neg htime] at hpass
          rw [whileLoop_next hmore hpass] at hrun
          exact ih (fun hrest => hstops ⟨by simpa using htime, hrest⟩) hrun
      · rw [if_neg hmore] at hbad
        rw [whileLoop_exit (by simpa using hmore)] at hrun
        cases hrun
        exact .inl ⟨hbad, s, rfl⟩

theorem CallFinishes.not_fails {call : CopyCall} {card : Card} {m : SDCHStateMachine}
    (h : CallFinishes call card m) : ¬ CallFails call card m := by
  rintro ⟨_, htarget | hopen | hcut⟩
  · exact htarget h.2.1
  · rw [h.2.2.1] at hopen
    cases hopen
  · exact h.2.2.2.2 hcut

/-- What a call of a running copy may do: report a failure to the recipient, end the copy and report that
    without a recipient, or send nothing. -/
theorem continueCurrentOperation_cases {call : CopyCall} {card : Card} {m : SDCHStateMachine}
    {answer : Outcome × SDCHStateMachine × Card} (hstate : m.internalState = .copyFile)
    (hrun : continueCurrentOperation call m card = some answer) :
    (CallFails call card m ∧ ∃ message, answer.1 = (.returnFailed, [message]) ∧
        message.success = false ∧ message.queueId = m.currentRecipient) ∨
      (CallFinishes call card m ∧ answer.1 = (.operationFinished, [⟨true, noQueue, none, 0⟩])) ∨
      (¬ CallFails call card m ∧ ¬ CallFinishes call card m ∧
        (answer.1 = (.returnFailed, []) ∨ answer.1 = (.taskPeriodOverSoon, []))) := by
  have hrecipient := cacheFileSize_currentRecipient card m
  rw [continueCurrentOperation, hstate] at hrun
  dsimp only at hrun
  unfold handleGenericCopyOperation at hrun
  by_cases hprepares : Prepares call card m
  · rw [prepareCopyFileInformation_of_prepares hprepares] at hrun
    dsimp only at hrun
    by_cases htarget : call.changeTarget ≠ 0
    · rw [if_pos htarget] at hrun
      cases hrun
      exact .inl ⟨⟨hprepares, .inl htarget⟩, _, rfl, rfl, hrecipient⟩
    rw [if_neg htarget] at hrun
    by_cases hopen : call.openTargetFails = true
    · rw [if_pos hopen] at hrun
      cases hrun
      exact .inl ⟨⟨hprepares, .inr (.inl hopen)⟩, _, rfl, rfl, hrecipient⟩
    rw [if_neg hopen] at hrun
    have hfails : CallFails call card m ↔ PassesGood False call.passes (loopStart call card m) := by
      refine ⟨fun h => (h.2.resolve_left htarget).resolve_left hopen, fun h => ⟨hprepares, ?_⟩⟩
      exact .inr (.inr h)
    -- how the loop ends
    have hloop : ∀ flow, whileLoop copyGoesOn copyPass call.passes (loopStart call card m) = some flow →
        (PassesGood False call.passes (loopStart call card m) ∧ ∃ s' message,
            flow = .ret (.returnFailed, [message]) s' ∧ message.success = false ∧
              message.queueId = (cacheFileSize card m).currentRecipient) ∨
          (PassesGood True call.passes (loopStart call card m) ∧
            ¬ PassesGood False call.passes (loopStart call card m) ∧ ∃ s', flow = .next s') ∨
          (¬ PassesGood True call.passes (loopStart call card m) ∧
            ∃ s', flow = .ret (.taskPeriodOverSoon, []) s') := by
      intro flow hflow
      by_cases hcut : PassesGood False call.passes (loopStart call card m)
      · rcases copyLoop_answers hcut hflow with ⟨hend, _⟩ | hret
        · exact hend.elim
        · exact .inl ⟨hcut, hret⟩
      · by_cases hends : PassesGood True call.passes (loopStart call card m)
        · refine .inr (.inl ⟨hends, hcut, ?_⟩)
          rcases copyLoop_silent hcut hflow with ⟨_, hnext⟩ | ⟨s', hret⟩
          · exact hnext
          · rcases copyLoop_answers hends hflow with ⟨_, hnext⟩ | ⟨s'', message, hret', _⟩
            · exact hnext
            · rw [hret] at hret'
              cases hret'
        · refine .inr (.inr ⟨hends, ?_⟩)
          rcases copyLoop_silent hends hflow with ⟨hnot, _⟩ | hret
          · exact absurd trivial hnot
          · exact hret
    split at hrun
    next => cases hrun
    next outcome s hflow =>
      cases hrun
      rcases hloop _ hflow with ⟨hcut, s', message, hret, hfailure, hqueue⟩ | ⟨_, _, s', hnext⟩ |
          ⟨hends, s', hret⟩
      · cases hret
        exact .inl ⟨hfails.mpr hcut, message, rfl, hfailure, hqueue.trans hrecipient⟩
      · cases hnext
      · cases hret
        refine .inr (.inr ⟨fun h => ?_, fun h => hends h.2.2.2.1, .inr rfl⟩)
        exact hends ((hfails.mp h).mono False.elim)
    next s hflow =>
      cases hrun
      rcases hloop _ hflow with ⟨_, s', message, hret, _⟩ | ⟨hends, hcut, _⟩ | ⟨_, s', hret⟩
      · cases hret
      · exact .inr (.inl ⟨⟨hprepares, not_not.mp htarget, by simpa using hopen, hends, hcut⟩, rfl⟩)
      · cases hret
  · have hnone := prepareCopyFileInformation_of_not_prepares hprepares
    split at hrun
    next =>
      cases hrun
      exact .inr (.inr ⟨fun h => hprepares h.1, fun h => hprepares h.1, .inl rfl⟩)
    next readFile m' hprepare =>
      rw [hprepare] at hnone
      cases hnone

/-- A good call ends the operation with one message: to the recipient, or, when the copy is complete,
    to the sender of the message received last. -/
theorem continueCurrentOperation_answers {call : CopyCall} {answer : Outcome × SDCHStateMachine × Card}
    (hstate : h.stateMachine.internalState = .copyFile) (hgood : DriveGood call h)
    (hrun : continueCurrentOperation call h.stateMachine h.card = some answer) :
    answer.1.1 ≠ .returnOk ∧ ∃ message, answer.1.2 = [message] ∧
      (message.queueId = h.stateMachine.currentRecipient ∨
        message.queueId = noQueue ∧ h.lastPartner = h.stateMachine.currentRecipient) := by
  obtain ⟨hprepares, hcall⟩ := hgood hstate
  have hrecipient := cacheFileSize_currentRecipient h.card h.stateMachine
  rcases continueCurrentOperation_cases hstate hrun with
    ⟨_, message, hanswer, _, hqueue⟩ | ⟨⟨_, htarget, hopen, _, hends⟩, hanswer⟩ | ⟨hfails, hfinishes, _⟩
  · rw [hanswer]
    exact ⟨by simp, message, rfl, .inl hqueue⟩
  · rw [hanswer]
    have hpasses := (hcall.resolve_left (not_not.mpr htarget)).resolve_left (by simp [hopen])
    exact ⟨by simp, _, rfl, .inr ⟨rfl, (hpasses.end_of_not_false hends).trans hrecipient⟩⟩
  · -- a good call is one of the first two
    have htarget : ¬ call.changeTarget ≠ 0 := fun h => hfails ⟨hprepares, .inl h⟩
    have hopen : ¬ call.openTargetFails = true := fun h => hfails ⟨hprepares, .inr (.inl h)⟩
    have hpasses := (hcall.resolve_left htarget).resolve_left hopen
    refine absurd ⟨hprepares, not_not.mp htarget, by simpa using hopen,
      hpasses.mono fun _ => trivial, fun hcut => ?_⟩ hfinishes
    exact hfails ⟨hprepares, .inr (.inr hcut)⟩

/-- Driving a copy ends it, whether it is complete or not. -/
theorem driveStateMachine_idle {call : CopyCall} {h₁ : Handler}
    (hstate : h.stateMachine.internalState = .copyFile) (hrun : driveStateMachine call h = some h₁) :
    h₁.stateMachine.internalState = .idle := by
  unfold driveStateMachine at hrun
  split at hrun
  next => cases hrun
  next result messages m card hcall =>
    cases hrun
    have hresult : result ≠ .returnOk := by
      rcases continueCurrentOperation_cases hstate hcall with
        ⟨_, message, hanswer, _⟩ | ⟨_, hanswer⟩ | ⟨_, _, hanswer | hanswer⟩
      all_goals
        cases hanswer
        simp
    dsimp only
    by_cases hfinished : result = .operationFinished
    · rw [if_pos hfinished]
      rfl
    · rw [if_neg hfinished, if_pos hresult]
      rfl

/-! ## The conversation along a run -/

/-- The invariant: no command is open and the state machine is idle, or one is and the state machine keeps
    its requester. -/
inductive InConversation (h : Handler) : Prop where
  | idle (hstate : h.stateMachine.internalState = .idle)
      (hserves : Serves (fun requester sent => sent.receiver = requester) none (conversation h.log) none)
  | copying (hstate : h.stateMachine.internalState = .copyFile)
      (hreal : h.stateMachine.currentRecipient ≠ noQueue)
      (hserves : Serves (fun requester sent => sent.receiver = requester) none (conversation h.log)
        (some h.stateMachine.currentRecipient))

theorem InConversation.answered (h : InConversation h') : Answered h' := by
  cases h with
  | idle hstate hserves => exact ⟨none, hserves, by simp [hstate]⟩
  | copying hstate _ hserves => exact ⟨some _, hserves, by simp [hstate]⟩

theorem copyCommand_inConversation {sender : MessageQueueId} {message : CopyMessage}
    (hreal : sender ≠ noQueue) (h : InConversation h')
    (hgood : CommandGood sender message h'.stateMachine) :
    InConversation { h' with
      stateMachine := (handleCopyCommand sender message h'.stateMachine).2.2
      lastPartner := sender
      log := h'.log ++ [.command sender (handleCopyCommand sender message h'.stateMachine).2.1
        (send sender (handleCopyCommand sender message h'.stateMachine).1)] } := by
  rcases handleCopyCommand_cases sender message h'.stateMachine with
    ⟨command, hcommand, hidle, haccepted, hcopying, hrecipient, hreplies⟩ |
      ⟨command, hcommand, hbusy, haccepted, hstate, hrecipient, _⟩ | ⟨_, haccepted, hkept⟩
  · -- accepted: a request is open from here on
    have hdata := hgood command hcommand
    rw [if_pos hidle] at hdata
    have hserves : Serves (fun requester sent => sent.receiver = requester) none
        (conversation h'.log) none := by
      cases h with
      | idle _ hserves => exact hserves
      | copying hstate _ _ => rw [hidle] at hstate; cases hstate
    refine .copying hcopying (by rw [hrecipient]; exact hreal) ?_
    rw [conversation_snoc, haccepted, hreplies, CopyMessage.rejections_eq_nil_iff.mpr hdata, hrecipient]
    exact hserves.request_snoc
  · -- refused: the recipient is replaced, by the same one
    have hsender := hgood command hcommand
    rw [if_neg hbusy] at hsender
    cases h with
    | idle hidle _ => exact absurd hidle hbusy
    | copying hcopying _ hserves =>
        refine .copying (hstate.trans hcopying) (by rw [hrecipient]; exact hreal) ?_
        rw [conversation_snoc, haccepted, hrecipient, hsender]
        exact hserves.append .nil
  · rw [haccepted, hkept]
    cases h with
    | idle hidle hserves =>
        refine .idle hidle ?_
        rw [conversation_snoc]
        exact hserves.append .nil
    | copying hcopying hreal' hserves =>
        refine .copying hcopying hreal' ?_
        rw [conversation_snoc]
        exact hserves.append .nil

theorem driveStateMachine_inConversation {call : CopyCall} {h₁ : Handler} (h : InConversation h')
    (hgood : DriveGood call h') (hrun : driveStateMachine call h' = some h₁) : InConversation h₁ := by
  unfold driveStateMachine at hrun
  split at hrun
  next => cases hrun
  next result messages m card hcall =>
    cases hrun
    cases h with
    | idle hstate hserves =>
        rw [continueCurrentOperation, hstate] at hcall
        cases hcall
        refine .idle hstate ?_
        rw [conversation_snoc]
        exact hserves.append .nil
    | copying hstate hreal hserves =>
        obtain ⟨hresult, message, hmessages, hqueue⟩ :=
          continueCurrentOperation_answers hstate hgood hcall
        -- without a recipient the message goes to the last partner
        have hreceiver : message.receiver h'.lastPartner = h'.stateMachine.currentRecipient := by
          unfold CompletionMessage.receiver
          rcases hqueue with hqueue | ⟨hqueue, hpartner⟩
          · rw [if_neg (by rw [hqueue]; exact hreal), hqueue]
          · rw [if_pos hqueue, hpartner]
        refine .idle ?_ ?_
        · show (if result = .operationFinished then m.resetAndSetToIdle
            else if result ≠ .returnOk then m.resetAndSetToIdle else m).internalState = .idle
          split_ifs
          · rfl
          · rfl
        · have hmessages : messages = [message] := hmessages
          rw [conversation_snoc, hmessages]
          exact hserves.answer_snoc hreceiver

theorem step_inConversation {event : Event} {h₁ : Handler} (h : InConversation h')
    (hgood : EventGood event h') (hstep : step event h' = some (.next h₁)) : InConversation h₁ := by
  cases event with
  | copyCommand sender real message =>
      cases hstep
      exact copyCommand_inConversation real h hgood
  | otherCommand sender card =>
      cases hstep
      cases h with
      | idle hstate hserves => exact .idle hstate hserves
      | copying hstate hreal hserves => exact .copying hstate hreal hserves
  | drive call =>
      obtain ⟨h₂, hdrive, heq⟩ := Option.map_eq_some_iff.mp hstep
      cases heq
      exact driveStateMachine_inConversation h hgood hdrive

end

/-- **Completions of copy commands.** In a run whose events meet the condition, each accepted copy command
    is completed by one message to its requester. -/
theorem runEvents_answered (card : Card) (events : List Event) (h : Handler)
    (hgood : Along EventGood (fun _ => true) step events (.initial card))
    (hrun : runEvents events (.initial card) = some h) : Answered h :=
  (passes_induct (fun _ _ _ => step_inConversation) events _ h (.idle rfl .nil) hgood hrun).answered

/-! ## Two runs -/

/-- The step of a call that finishes the copy. -/
theorem step_drive_finished {call : CopyCall} {h : Handler} {messages : List CompletionMessage}
    {m : SDCHStateMachine} {card : Card}
    (hcall : continueCurrentOperation call h.stateMachine h.card =
      some ((.operationFinished, messages), m, card)) :
    step (.drive call) h = some (.next { h with
      stateMachine := m.resetAndSetToIdle
      card := card
      log := h.log ++ [.driven .operationFinished (send h.lastPartner messages)] }) := by
  show (driveStateMachine call h).map Flow.next = _
  unfold driveStateMachine
  rw [hcall]
  rfl

/-- A command to copy the example file. -/
def exampleMessage : CopyMessage where
  getData := none
  size := 22
  command := .ok ⟨exampleSource.1, exampleSource.2, exampleTarget.1, exampleTarget.2⟩

/-- A call that cannot change to the directory of the target. -/
def lostTargetCall : CopyCall := { smoothCall false with changeTarget := 1 }

/-- A copy of the file for queue 1, another command, a copy for queue 3, which asks for it twice, and the
    call that fails. -/
def exampleEvents (file : SdFile) : List Event :=
  [.copyCommand 1 (by decide) exampleMessage, .drive twoPartCall,
    .otherCommand 2 (cardWith exampleSource file), .copyCommand 3 (by decide) exampleMessage,
    .copyCommand 3 (by decide) exampleMessage, .drive lostTargetCall]

/-- The log behind them. -/
def exampleLog : List Entry :=
  [.command 1 true [], .driven .operationFinished [⟨1, ⟨true, noQueue, none, 0⟩⟩], .command 3 true [],
    .command 3 false [⟨3, failureReply .isBusy 0⟩],
    .driven .returnFailed [⟨3, ⟨false, 3, some .directoryDoesNotExist, 0⟩⟩]]

/-- The passes of a call that has the time it needs. -/
theorem passesGood_of_never {atEnd : Prop} (hend : atEnd) {passes : List CopyPass}
    (hnever : ∀ pass ∈ passes, pass.timedOut = false) (s : CopyLoop) : PassesGood atEnd passes s := by
  induction passes generalizing s with
  | nil => exact fun _ => hend
  | cons pass passes ih =>
      unfold PassesGood
      split_ifs
      · exact .inr ⟨hnever pass List.mem_cons_self,
          ih (fun pass' hmem => hnever pass' (List.mem_cons_of_mem _ hmem)) _⟩
      · exact hend

theorem twoPartCall_good (file : SdFile) :
    DriveGood twoPartCall ⟨exampleCopy, cardWith exampleSource file, 1, [.command 1 true []]⟩ :=
  fun _ => ⟨⟨rfl, fun _ => rfl, rfl, nofun, rfl⟩,
    .inr (.inr (passesGood_of_never rfl twoPartCall_inTime _))⟩

/-- The first copy ends with a success for queue 1, the second one with a failure for queue 3. -/
theorem runEvents_copies_two_parts :
    ∃ h, runEvents (exampleEvents twoParts) (.initial (cardWith exampleSource twoParts)) = some h ∧
      h.log = exampleLog ∧ Answered h := by
  have hcount := passCount_twoParts
  generalize twoParts = file at hcount ⊢
  obtain ⟨m, card, hcall⟩ := twoPartCall_finishes hcount
  have hdriven : step (.drive twoPartCall)
      ⟨exampleCopy, cardWith exampleSource file, 1, [.command 1 true []]⟩ =
        some (.next ⟨.initial, card, 1, [.command 1 true [],
          .driven .operationFinished [⟨1, ⟨true, noQueue, none, 0⟩⟩]]⟩) := by
    rw [step_drive_finished hcall]
    rfl
  have hrun : runEvents (exampleEvents file) (.initial (cardWith exampleSource file)) =
      some ⟨.initial, cardWith exampleSource file, 3, exampleLog⟩ :=
    (passes_cons rfl rfl).trans ((passes_cons rfl hdriven).trans rfl)
  refine ⟨_, hrun, rfl, runEvents_answered (cardWith exampleSource file) (exampleEvents file) _ ?_ hrun⟩
  refine fun _ => ⟨fun _ _ => ⟨rfl, by decide⟩, fun h₁ hstep => ?_⟩
  cases hstep
  refine fun _ => ⟨twoPartCall_good file, fun h₂ hstep => ?_⟩
  obtain rfl := Flow.next.inj (Option.some.inj (hdriven.symm.trans hstep))
  refine fun _ => ⟨trivial, fun h₃ hstep => ?_⟩
  cases hstep
  refine fun _ => ⟨fun _ _ => ⟨rfl, by decide⟩, fun h₄ hstep => ?_⟩
  cases hstep
  -- the second command of queue 3 finds its own copy under way
  refine fun _ => ⟨fun _ _ => rfl, fun h₅ hstep => ?_⟩
  cases hstep
  exact fun _ => ⟨fun _ => ⟨⟨rfl, fun _ => rfl, rfl, nofun, rfl⟩, .inl (by decide)⟩, fun _ _ => trivial⟩

/-- **A copy that is interrupted is never reported.** `driveStateMachine` resets the state machine for
    every result but `RETURN_OK`, so also when the time is over. -/
theorem runEvents_interrupted_unanswered :
    ∃ h, runEvents [.copyCommand 1 (by decide) exampleMessage, .drive (smoothCall true),
        .drive (smoothCall false)] (.initial (cardWith exampleSource oneByte)) = some h ∧
      h.log = [.command 1 true [], .driven .taskPeriodOverSoon [], .driven .returnOk []] ∧
      ¬ Answered h := by
  refine ⟨_, rfl, rfl, ?_⟩
  rintro ⟨pending, hserves, hpending⟩
  obtain ⟨_, hserves⟩ := hserves.none_of_request
  cases hserves
  simp [SDCHStateMachine.resetAndSetToIdle] at hpending

end CopyFile
end Sdc
end Obsw
