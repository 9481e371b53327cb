import Obsw.Sdc.CopyReply
import Obsw.Sdc.Cycle

/-!
# `Sdc.CopyWaits` — a copy between its command and the call that drives it

`performOperation` returns when its countdown is over behind the message it has handled, so a copy that
was accepted there waits. The next cycle with a message takes this message first, and drives the state
machine behind it, if there is time. The messages in between change what the waiting copy reports:
`CANCEL_SDCH_OPERATIONS` drops it, a second copy command replaces its paths and its recipient, and each
of them is the last one received when the copy ends.
-/

namespace Obsw
namespace Sdc
namespace CopyFile

/-- A message that is taken from the queue while a copy waits: it is handled, or dropped by a cycle that
    returns before it gets so far. -/
inductive Interim where
  | handled (m : Cycle.Message)
  | dropped (m : Cycle.Message)

/-- What a message does to the state machine, the card and the last sender. -/
def Interim.take : Interim → Handler → Handler
  | .dropped m, h => { h with lastPartner := m.sender }
  | .handled (.action c _ card), h =>
    { h with
      stateMachine :=
        if c.actionId = Actions.cancelSdchOperations then h.stateMachine.resetAndSetToIdle
        else h.stateMachine
      card := card
      lastPartner := c.commandedBy }
  | .handled (.file sender (.copyFile copy) card), h =>
    { h with
      stateMachine := (handleCopyCommand sender copy h.stateMachine).2.2
      card := card
      lastPartner := sender }
  | .handled (.file sender _ card), h => { h with card := card, lastPartner := sender }

/-- The messages up to the one that cancels the copy. -/
def wait : List Interim → Handler → Handler
  | [],           h => h
  | i :: interim, h =>
    if (i.take h).stateMachine.internalState = .idle then i.take h else wait interim (i.take h)

/-! ## The cycles of the handler -/

section Cycles

open Sdc.Cycle (CycleEnv)

variable {e : CycleEnv} {h h' : Cycle.Handler} {m : Cycle.Message} {entries : List Cycle.Entry}

/-- What a waiting copy depends on. -/
def copyPart (h : Cycle.Handler) : Handler := ⟨h.stateMachine, h.card, h.lastPartner, []⟩

/-- Handling a message is a step of the copy that waits. -/
theorem handleMessage_take (hsender : h.lastPartner = m.sender)
    (hrun : Cycle.handleMessage m h = some h') :
    copyPart h' = (Interim.handled m).take (copyPart h) := by
  cases m with
  | action c o card =>
      cases hrun
      have hpartner : h.lastPartner = c.commandedBy := hsender
      by_cases hcancel : c.actionId = Actions.cancelSdchOperations
      · simp only [copyPart, Interim.take, if_pos hcancel, Cycle.Handler.setActions,
          Actions.executeAction_cancel _ _ hcancel, hpartner]
        rfl
      · simp only [copyPart, Interim.take, if_neg hcancel, Cycle.Handler.setActions,
          Actions.executeAction_stateMachine _ _ hcancel, hpartner]
        rfl
  | file sender message card =>
      obtain ⟨⟨answer, files⟩, hfile, rfl⟩ := Option.map_eq_some_iff.mp hrun
      have hpartner : h.lastPartner = sender := hsender
      subst hpartner
      cases message with
      | readFromFile e content storeId =>
          obtain ⟨_, _, heq⟩ := Option.map_eq_some_iff.mp hfile
          cases heq
          rfl
      | _ =>
          cases hfile
          rfl

/-- The block that finishes a change of the card keeps the copy. -/
theorem finishChange_copyPart {goesOn : Bool} {changed : List Cycle.Entry}
    (hrun : Cycle.finishChange h = (goesOn, changed, h')) : copyPart h' = copyPart h := by
  unfold Cycle.finishChange at hrun
  split at hrun
  · dsimp only at hrun
    split at hrun
    · cases hrun
      simp only [copyPart, Cycle.Handler.setActions, Actions.finishSdCardChange]
      split <;> rfl
    · cases hrun
      rfl
  · cases hrun
    rfl

theorem handleSdCardAccessResult_copyPart {token : Token} {result : Option Code}
    (hrun : Cycle.handleSdCardAccessResult token h = (result, h')) : copyPart h' = copyPart h := by
  unfold Cycle.handleSdCardAccessResult at hrun
  split at hrun
  · dsimp only at hrun
    split at hrun <;> cases hrun <;> rfl
  · cases hrun
    rfl
  · cases hrun
    rfl

/-- What a cycle does behind its first message leaves a copy alone that it does not drive. -/
theorem cycleRest_copyPart {token : Token} (hbusy : h.stateMachine.internalState ≠ .idle)
    (hrun : Cycle.cycleRest e token h = some (entries, h')) (hdriven : .driven ∉ entries) :
    copyPart h' = copyPart h := by
  obtain ⟨_, _, hdrives⟩ := Cycle.cycleRest_spec hrun
  unfold Cycle.cycleRest at hrun
  by_cases htime : e.timedOut = true
  · rw [if_pos htime] at hrun
    cases hrun
    rfl
  · by_cases hpasses : e.passes = []
    · rw [if_neg htime, hpasses] at hrun
      cases hrun
      rfl
    · exact absurd (hdrives (by simpa using htime) hpasses hbusy) hdriven

/-- A cycle with a message that does not drive the copy has dropped it or handled it. -/
theorem performMessage_take (hsender : h.lastPartner = m.sender)
    (hbusy : h.stateMachine.internalState ≠ .idle)
    (hrun : Cycle.performMessage e m h = some (entries, h')) (hdriven : .driven ∉ entries) :
    copyPart h' = copyPart h ∨ m.Cancels ∨
      copyPart h' = (Interim.handled m).take (copyPart h) := by
  unfold Cycle.performMessage at hrun
  split at hrun
  next changed h₁ hfinish =>
    cases hrun
    exact .inl (finishChange_copyPart hfinish)
  next changed h₁ hfinish =>
    have hkept₁ := finishChange_copyPart hfinish
    dsimp only at hrun
    split at hrun
    next code h₂ haccess =>
      cases hrun
      exact .inl ((handleSdCardAccessResult_copyPart haccess).trans hkept₁)
    next h₂ haccess =>
      have hkept₂ := (handleSdCardAccessResult_copyPart haccess).trans hkept₁
      split at hrun
      next => cases hrun
      next h₃ hhandle =>
        obtain ⟨rest, hrest, heq⟩ := Option.map_eq_some_iff.mp hrun
        cases heq
        by_cases hcancel : m.Cancels
        · exact .inr (.inl hcancel)
        · have hpartner : h₂.lastPartner = m.sender :=
            (congrArg Handler.lastPartner hkept₂).trans hsender
          have hmachine : h₂.stateMachine = h.stateMachine := congrArg Handler.stateMachine hkept₂
          have hbusy₃ := (Cycle.handleMessage_frame hhandle).2 (by rw [hmachine]; exact hbusy) hcancel
          have hlast : .driven ∉ rest.1 := fun hmem => hdriven
            (List.mem_append_right _ (List.mem_cons_of_mem _ hmem))
          have hstep := handleMessage_take hpartner hhandle
          rw [hkept₂] at hstep
          exact .inr (.inr ((cycleRest_copyPart hbusy₃ hrest hlast).trans hstep))

/-- **Cycles are such steps.** A cycle that does not drive a copy that waits has taken no message, dropped
    the one it took, or handled it; behind a cancellation there is no copy any more. -/
theorem performOperation_take (hbusy : h.stateMachine.internalState ≠ .idle)
    (hrun : Cycle.performOperation e h = some (entries, h')) (hdriven : .driven ∉ entries) :
    copyPart h' = copyPart h ∨
      ∃ m, m.Cancels ∨ copyPart h' = (Interim.dropped m).take (copyPart h) ∨
        copyPart h' = (Interim.handled m).take (copyPart h) := by
  unfold Cycle.performOperation Cycle.receiveMessage at hrun
  cases hreceive : e.receive with
  | some code =>
      rw [hreceive] at hrun
      cases hrun
      exact .inl rfl
  | none =>
      cases hqueue : h.queue with
      | nil =>
          rw [hreceive, hqueue] at hrun
          cases hrun
          exact .inl rfl
      | cons m queue =>
          rw [hreceive, hqueue] at hrun
          refine .inr ⟨m, ?_⟩
          rcases performMessage_take (h := { h with queue := queue, lastPartner := m.sender }) rfl
            hbusy hrun hdriven with hkept | hcancel | hhandled
          · exact .inr (.inl hkept)
          · exact .inl hcancel
          · refine .inr (.inr (hhandled.trans ?_))
            -- a message that is handled replaces the last sender
            cases m with
            | action c o card => rfl
            | file sender message card => cases message <;> rfl

end Cycles

/-! ## What the messages leave -/

/-- What a copy that waits is going to do and to report: the last copy command that was understood and its
    sender, the sender of the last message, and the card. -/
structure Pending where
  recipient : MessageQueueId
  command : CopyFileCommand
  partner : MessageQueueId
  card : Card

namespace Pending

/-- A copy that has just been commanded. -/
def commanded (sender : MessageQueueId) (command : CopyFileCommand) (card : Card) : Pending :=
  ⟨sender, command, sender, card⟩

/-- The state machine, which was idle before the first command. -/
def machine (m : SDCHStateMachine) (p : Pending) : SDCHStateMachine :=
  (m.setCopyFileOperation p.command.sourcePath p.command.sourceName p.command.targetPath
    p.command.targetName p.recipient).2

def take : Interim → Pending → Pending
  | .dropped m, p => { p with partner := m.sender }
  | .handled (.action c _ card), p => { p with partner := c.commandedBy, card := card }
  | .handled (.file sender (.copyFile copy) card), p =>
    match copy.command with
    | .ok command => ⟨sender, command, sender, card⟩
    | .error _ => { p with partner := sender, card := card }
  | .handled (.file sender _ card), p => { p with partner := sender, card := card }

/-- What all the messages leave. -/
def behind (interim : List Interim) (p : Pending) : Pending := interim.foldl (fun p i => p.take i) p

/-- The handler that drives the state machine next. -/
def handler (m : SDCHStateMachine) (p : Pending) : Handler := ⟨p.machine m, p.card, p.partner, []⟩

end Pending

/-- No message cancels the copy. -/
def NotCancelled (interim : List Interim) : Prop := ∀ m, .handled m ∈ interim → ¬ m.Cancels

section

variable {m : SDCHStateMachine} {p : Pending} {i : Interim} {interim : List Interim}

theorem Pending.machine_internalState (hidle : m.internalState = .idle) :
    (p.machine m).internalState = .copyFile := by
  unfold machine SDCHStateMachine.setCopyFileOperation
  rw [if_neg (not_not.mpr hidle)]

theorem Pending.machine_source : (p.machine m).source = (p.command.sourcePath, p.command.sourceName) := by
  unfold machine SDCHStateMachine.setCopyFileOperation
  dsimp only
  split <;> rfl

theorem Pending.machine_target : (p.machine m).target = (p.command.targetPath, p.command.targetName) := by
  unfold machine SDCHStateMachine.setCopyFileOperation
  dsimp only
  split <;> rfl

theorem Pending.machine_currentRecipient : (p.machine m).currentRecipient = p.recipient := by
  unfold machine SDCHStateMachine.setCopyFileOperation
  dsimp only
  split <;> rfl

theorem take_handler (hidle : m.internalState = .idle)
    (hkept : ∀ message, i = .handled message → ¬ message.Cancels) :
    i.take (p.handler m) = (p.take i).handler m := by
  cases i with
  | dropped message => rfl
  | handled message =>
      cases message with
      | action c o card =>
          have hcancel : c.actionId ≠ Actions.cancelSdchOperations := hkept _ rfl
          simp only [Interim.take, Pending.take, Pending.handler, if_neg hcancel, Pending.machine]
      | file sender message card =>
          cases message with
          | copyFile copy =>
              cases hcommand : copy.command with
              | error result =>
                  simp only [Interim.take, Pending.take, Pending.handler, handleCopyCommand, hcommand,
                    Pending.machine]
              | ok command =>
                  -- the refused command overwrites what the accepted one has set
                  simp only [Interim.take, Pending.take, Pending.handler, handleCopyCommand, hcommand,
                    Pending.machine, SDCHStateMachine.setCopyFileOperation, hidle]
                  rfl
          | _ => rfl

/-- A cancellation sets the state machine to idle. -/
theorem take_cancels {message : Cycle.Message} (hcancel : message.Cancels) (h : Handler) :
    ((Interim.handled message).take h).stateMachine.internalState = .idle := by
  cases message with
  | action c o card =>
      have hid : c.actionId = Actions.cancelSdchOperations := hcancel
      simp only [Interim.take, if_pos hid]
      rfl
  | file sender message card => exact hcancel.elim

/-- Without a cancellation the copy is driven with what the messages leave. -/
theorem wait_handler (hidle : m.internalState = .idle) (hkept : NotCancelled interim) :
    wait interim (p.handler m) = (p.behind interim).handler m := by
  induction interim generalizing p with
  | nil => rfl
  | cons i interim ih =>
      have htake := take_handler (p := p) hidle fun message (hi : i = .handled message) =>
        hkept message (hi ▸ List.mem_cons_self)
      have hbusy : ¬ ((p.take i).handler m).stateMachine.internalState = .idle := by
        show ¬ ((p.take i).machine m).internalState = .idle
        rw [Pending.machine_internalState hidle]
        exact nofun
      rw [wait, htake, if_neg hbusy, ih fun message hm => hkept message (List.mem_cons_of_mem _ hm)]
      rfl

/-- With one there is no copy to drive. -/
theorem wait_idle (hidle : m.internalState = .idle) (hcancel : ¬ NotCancelled interim) :
    (wait interim (p.handler m)).stateMachine.internalState = .idle := by
  induction interim generalizing p with
  | nil => exact absurd (fun message hm => nomatch hm) hcancel
  | cons i interim ih =>
      rw [wait]
      by_cases hfirst : ∃ message, i = .handled message ∧ message.Cancels
      · obtain ⟨message, rfl, hcancels⟩ := hfirst
        rw [if_pos (take_cancels hcancels _)]
        exact take_cancels hcancels _
      · have htake := take_handler (p := p) hidle fun message hi hc => hfirst ⟨message, hi, hc⟩
        split
        next hstate => exact hstate
        next =>
          rw [htake]
          refine ih fun hkept => hcancel fun message hm => ?_
          rcases List.mem_cons.mp hm with hi | hm
          · exact fun hc => hfirst ⟨message, hi.symm, hc⟩
          · exact hkept message hm

end

end CopyFile
end Sdc
end Obsw
