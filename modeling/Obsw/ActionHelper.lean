/-!
# `Obsw.ActionHelper` — action commands and their reports

The framework is not part of the repository. Its action helper hands an action command to
`executeAction` of its owner, and lets the owner report steps and completions. When `executeAction`
returns, it reports a start for `RETURN_OK`, a completion for `EXECUTION_FINISHED` and a failure for any
other code.
-/

namespace Obsw

abbrev MessageQueueId := Nat

/-- `MessageQueueIF::NO_QUEUE`. -/
def noQueue : MessageQueueId := 0

abbrev ActionId := Nat

/-- The arguments of `executeAction`. -/
structure ActionCommand where
  actionId : ActionId
  commandedBy : MessageQueueId
  data : List UInt8
  deriving DecidableEq, Repr

/-- What `executeAction` returns, with the codes `κ` of the owner. -/
inductive ExecutionResult (κ : Type) where
  | ok
  | executionFinished
  | failed (code : κ)
  deriving DecidableEq, Repr

/-- What a report names as its action: an action id, or a return code that was passed in its place. -/
inductive CommandId (κ : Type) where
  | action (id : ActionId)
  | code (code : κ)
  deriving DecidableEq, Repr

/-- A report of the action helper. The result `none` is `RETURN_OK`. -/
inductive ActionReport (κ : Type) where
  | start (reportTo : MessageQueueId) (commandId : CommandId κ)
  | failure (reportTo : MessageQueueId) (commandId : CommandId κ) (result : κ)
  | step (number : Nat) (reportTo : MessageQueueId) (commandId : CommandId κ) (result : Option κ)
  | finish (success : Bool) (reportTo : MessageQueueId) (commandId : CommandId κ)
      (result : Option κ)
  deriving DecidableEq, Repr

variable {κ : Type}

/-- What the action helper reports when `executeAction` returns. -/
def reportExecution (c : ActionCommand) : ExecutionResult κ → ActionReport κ
  | .ok => .start c.commandedBy (.action c.actionId)
  | .executionFinished => .finish true c.commandedBy (.action c.actionId) none
  | .failed code => .failure c.commandedBy (.action c.actionId) code

/-- A report that completes a command: its success, the queue it goes to, and what it names. -/
structure CompletionReport (κ : Type) where
  success : Bool
  reportTo : MessageQueueId
  commandId : CommandId κ
  deriving DecidableEq, Repr

/-- The completions among reports. A failure of the start completes a command as well. -/
def completionReports (reports : List (ActionReport κ)) : List (CompletionReport κ) :=
  reports.filterMap fun
    | .finish success reportTo commandId _ => some ⟨success, reportTo, commandId⟩
    | .failure reportTo commandId _ => some ⟨false, reportTo, commandId⟩
    | _ => none

/-- The completion that answers a command. -/
def ActionCommand.answer (c : ActionCommand) (success : Bool) : CompletionReport κ :=
  ⟨success, c.commandedBy, .action c.actionId⟩

end Obsw
