import Obsw.Sdc.Access
import Obsw.Sdc.Actions
import Obsw.Sdc.FileCommands

/-!
# `Sdc.Cycle` — the periodic operation of the SD card handler

`SDCardHandler::performOperation`. A cycle takes a message, finishes a change of the card that is
pending, takes an access token, handles the message, and then drives the state machine or takes more
messages while there is time. Messages arrive and other tasks take and release access between the
cycles and inside of them. The early returns of a cycle skip what stands behind them.
-/

namespace Obsw
namespace Sdc
namespace Cycle

open CopyFile Loop Memory

/-! ## The handler -/

/-- A message of the queue, with what handling it meets and the card behind it. -/
inductive Message where
  | action (c : ActionCommand) (o : Actions.ActionOutcome) (card : Card)
  | file (sender : MessageQueueId) (m : FileCommand.FileMessage) (card : Card)

def Message.sender : Message → MessageQueueId
  | .action c _ _ => c.commandedBy
  | .file sender _ _ => sender

/-- The members of the handler, its queue, the access manager, the card and the FRAM. -/
structure Handler where
  sys : System
  queue : List Message
  write : Upload.Handler
  read : Download.Handler
  stateMachine : SDCHStateMachine
  lastPartner : MessageQueueId
  sdCardChangeOngoing : Bool
  actionSender : MessageQueueId
  currentAction : ActionId
  card : Card
  fram : Mem UInt8

namespace Handler

/-- The members that actions use. -/
def actions (h : Handler) : Actions.Handler :=
  ⟨h.stateMachine, h.sdCardChangeOngoing, h.actionSender, h.currentAction, h.fram⟩

def setActions (h : Handler) (a : Actions.Handler) : Handler :=
  { h with
    stateMachine := a.stateMachine
    sdCardChangeOngoing := a.sdCardChangeOngoing
    actionSender := a.actionSender
    currentAction := a.currentAction
    fram := a.fram }

/-- The members that file commands use. -/
def files (h : Handler) : FileCommand.Handler := ⟨h.write, h.read, h.stateMachine⟩

def setFiles (h : Handler) (f : FileCommand.Handler) : Handler :=
  { h with write := f.write, read := f.read, stateMachine := f.stateMachine }

/-- The handler at startup. -/
def initial (activeSdCard : VolumeId) (card : Card) (fram : Mem UInt8) : Handler where
  sys := init activeSdCard
  queue := []
  write := FileCommand.Handler.initial.write
  read := FileCommand.Handler.initial.read
  stateMachine := .initial
  lastPartner := noQueue
  sdCardChangeOngoing := false
  actionSender := noQueue
  currentAction := Actions.noAction
  card := card
  fram := fram

end Handler

/-- What a cycle does, in order. -/
inductive Entry where
  | changed
  | dropped (m : Message)
  | handled (m : Message) (token : Token)
  | driven

/-- A step of another task. The change of the card is tried by the handler only. -/
structure OtherStep where
  action : Action
  other : action ≠ .tryActiveSdCardChange

/-- The steps of other tasks. -/
def otherSteps (steps : List OtherStep) (s : System) : System :=
  run (fun e s => step e.action s) steps s

/-- A pass of the loop of `performOperation` that finds the countdown busy: the messages that arrive
    before it, the error of the queue, and the call that drives the state machine. -/
structure Pass where
  arrivals : List Message
  receive : Option Code
  call : CopyCall

/-- What a cycle meets: the error of the queue, the calls of the access token, the steps of other tasks
    before the token is constructed and before it is destroyed, whether the countdown is over behind the
    first message, and the passes. -/
structure CycleEnv where
  receive : Option Code
  openFs : OpenOutcome
  select : SelectOutcome
  unset : VolumeId
  before : List OtherStep
  timedOut : Bool
  passes : List Pass
  behind : List OtherStep
  delvolume : Int
  close : CloseOutcome

/-! ## `performOperation` -/

/-- What the queue answers. -/
inductive Received where
  | empty
  | failed (code : Code)
  | message (m : Message)

/-- `receiveMessage` of the queue, which remembers the sender. -/
def receiveMessage (error : Option Code) (h : Handler) : Received × Handler :=
  match error, h.queue with
  | some code, _ => (.failed code, h)
  | none, [] => (.empty, h)
  | none, m :: queue => (.message m, { h with queue := queue, lastPartner := m.sender })

/-- `handleMessage`. -/
def handleMessage (m : Message) (h : Handler) : Option Handler :=
  match m with
  | .action c o card =>
    let h' := h.setActions (Actions.executeAction c o h.actions).handler
    some { h' with card := card }
  | .file sender m card =>
    (FileCommand.handleFileMessage sender m h.files).map fun handled =>
      { h.setFiles handled.2 with card := card }

/-- `driveStateMachine`. -/
def drive (call : CopyCall) (h : Handler) : Option Handler :=
  (driveStateMachine call ⟨h.stateMachine, h.card, h.lastPartner, []⟩).map fun copy =>
    { h with stateMachine := copy.stateMachine, card := copy.card }

/-- The block that finishes a change of the card: whether the cycle goes on, and what was done. -/
def finishChange (h : Handler) : Bool × List Entry × Handler :=
  if h.sdCardChangeOngoing then
    let tried := tryActiveSdCardChange h.sys
    let h := { h with sys := tried.2 }
    if tried.1 then (true, [.changed], h.setActions (Actions.finishSdCardChange true h.actions).2)
    else (false, [], h)
  else (true, [], h)

/-- The token is constructed. It is a local variable of the cycle, so it is kept apart from those of other
    tasks. -/
def openAccess (e : CycleEnv) (s : System) : Token × System :=
  let s' := construct e.openFs e.select e.unset s
  (s'.tokens.getLastD ⟨false, .failed, e.unset⟩, { s' with tokens := s.tokens })

/-- The token is destroyed. -/
def closeAccess (e : CycleEnv) (token : Token) (s : System) : System :=
  destruct s.tokens.length e.delvolume e.close { s with tokens := s.tokens ++ [token] }

/-- `handleSdCardAccessResult`. -/
def handleSdCardAccessResult (token : Token) (h : Handler) : Option Code × Handler :=
  match token.accessResult with
  | .sdCardChangeOngoing =>
    let tried := tryActiveSdCardChange h.sys
    if tried.1 then (none, { h with sys := tried.2, sdCardChangeOngoing := false })
    else (some .returnFailed, { h with sys := tried.2, sdCardChangeOngoing := true })
  | .failed => (some .returnFailed, h)
  | .ok => (none, h)

/-- One pass of the loop: what is done, whether the loop goes on, and the handler. -/
def cyclePass (token : Token) (pass : Pass) (h : Handler) : Option (List Entry × Bool × Handler) :=
  if h.stateMachine.internalState ≠ .idle then
    (drive pass.call h).map fun h => ([.driven], !h.sdCardChangeOngoing, h)
  else
    match receiveMessage pass.receive { h with queue := h.queue ++ pass.arrivals } with
    | (.empty, h) => some ([], false, h)
    | (.failed _, h) => some ([], !h.sdCardChangeOngoing, h)
    | (.message m, h) =>
      (handleMessage m h).map fun h => ([.handled m token], !h.sdCardChangeOngoing, h)

/-- The loop, which ends when the countdown is not busy any more. -/
def cycleLoop (token : Token) : List Pass → Handler → Option (List Entry × Handler)
  | [],             h => some ([], h)
  | pass :: passes, h =>
    match cyclePass token pass h with
    | none => none
    | some (entries, goesOn, h) =>
      if goesOn then
        (cycleLoop token passes h).map fun rest => (entries ++ rest.1, rest.2)
      else some (entries, h)

/-- What is done behind the first message. -/
def cycleRest (e : CycleEnv) (token : Token) (h : Handler) : Option (List Entry × Handler) :=
  if e.timedOut then some ([], h) else cycleLoop token e.passes h

/-- The system in which the token is constructed. -/
def accessSystem (e : CycleEnv) (h : Handler) : System := otherSteps e.before (finishChange h).2.2.sys

/-- The token is destroyed at the end of a cycle, behind the steps of other tasks. -/
def endCycle (e : CycleEnv) (token : Token) (h : Handler) : Handler :=
  { h with sys := closeAccess e token (otherSteps e.behind h.sys) }

/-- `performOperation` for the first message of a cycle. -/
def performMessage (e : CycleEnv) (m : Message) (h : Handler) : Option (List Entry × Handler) :=
  match finishChange h with
  -- returns although the message has been taken from the queue
  | (false, _, h') => some ([.dropped m], h')
  | (true, changed, h') =>
    let accessed := openAccess e (accessSystem e h)
    let token := accessed.1
    match handleSdCardAccessResult token { h' with sys := accessed.2 } with
    | (some _, h') => some (changed ++ [.dropped m], endCycle e token h')
    | (none, h') =>
      match handleMessage m h' with
      | none => none
      | some h' =>
        (cycleRest e token h').map fun rest =>
          (changed ++ .handled m token :: rest.1, endCycle e token rest.2)

/-- `performOperation`. -/
def performOperation (e : CycleEnv) (h : Handler) : Option (List Entry × Handler) :=
  match receiveMessage e.receive h with
  | (.message m, h) => performMessage e m h
  | (.empty, h) => some ([], h)
  | (.failed _, h) => some ([], h)

/-- What happens: a message arrives, another task makes a step, or a cycle is performed. -/
inductive Event where
  | arrive (m : Message)
  | other (o : OtherStep)
  | cycle (e : CycleEnv)

def stepEvent (event : Event) (h : Handler) : Option (Flow Unit Handler) :=
  match event with
  | .arrive m => some (.next { h with queue := h.queue ++ [m] })
  | .other o => some (.next { h with sys := step o.action h.sys })
  | .cycle e => (performOperation e h).map fun done => .next done.2

/-! ## What a cycle should do -/

/-- A message with the action that sets the state machine to idle. -/
def Message.Cancels : Message → Prop
  | .action c _ _ => c.actionId = Actions.cancelSdchOperations
  | .file _ _ _ => False

/-- What a cycle should do: it drops no message, handles messages with a token that was granted access,
    changes the card if that is pending and no access is active, and continues an operation unless that is
    cancelled. -/
structure Kept (h : Handler) (entries : List Entry) : Prop where
  answered : ∀ m, .dropped m ∉ entries
  granted : ∀ m token, .handled m token ∈ entries →
    token.accessSuccess = true ∧ token.accessResult = .ok
  changed : h.sdCardChangeOngoing = true → h.sys.mgr.activeAccesses = 0 → .changed ∈ entries
  continued : h.stateMachine.internalState ≠ .idle →
    .driven ∈ entries ∨ ∃ m token, .handled m token ∈ entries ∧ m.Cancels

/-- A cycle does what it should. -/
def EventKept (event : Event) (h : Handler) : Prop :=
  match event with
  | .cycle e => ∀ entries h', performOperation e h = some (entries, h') → Kept h entries
  | _ => True

/-! ## The condition on a run -/

/-- `select_sd_card` works. -/
def SelectWorks (o : SelectOutcome) : Prop :=
  o.enterFs = 0 ∧ match o.initvolume with
    | .ok => True
    | .notFormatted => o.format = 0
    | .failed _ _ _ => False

/-- The token can open the file system, if it has to, and select the card. -/
def AccessWorks (e : CycleEnv) (s : System) : Prop :=
  (s.mgr.activeAccesses = 0 → e.openFs.code = 0) ∧ SelectWorks e.select

/-- A cycle with a message finishes the change that is pending, gets access, and has time for the state
    machine if it is busy; a cycle without one has neither a change to finish nor an operation to
    continue. -/
def CycleGood (e : CycleEnv) (h : Handler) : Prop :=
  match (receiveMessage e.receive h).1 with
  | .message m =>
    (h.sdCardChangeOngoing = true → h.sys.mgr.activeAccesses = 0) ∧
      AccessWorks e (accessSystem e h) ∧
      (h.stateMachine.internalState ≠ .idle → m.Cancels ∨ (e.timedOut = false ∧ e.passes ≠ []))
  | _ =>
    (h.sdCardChangeOngoing = true → h.sys.mgr.activeAccesses ≠ 0) ∧
      h.stateMachine.internalState = .idle

def EventGood (event : Event) (h : Handler) : Prop :=
  match event with
  | .cycle e => CycleGood e h
  | _ => True

/-! ## The manager -/

section Manager

variable {s : System}

/-- Only an attempt to change the card sets or clears the mark of a change. -/
theorem otherStep_changingSdCard (o : OtherStep) :
    (step o.action s).mgr.changingSdCard = s.mgr.changingSdCard := by
  obtain ⟨n, hmgr⟩ := step_mgr_of_ne o.other
  rw [hmgr]

theorem otherSteps_changingSdCard (steps : List OtherStep) :
    ∀ s, (otherSteps steps s).mgr.changingSdCard = s.mgr.changingSdCard := by
  induction steps with
  | nil => exact fun _ => rfl
  | cons o steps ih => exact fun s => (ih _).trans (otherStep_changingSdCard o)

theorem closeAccess_changingSdCard (e : CycleEnv) (token : Token) :
    (closeAccess e token s).mgr.changingSdCard = s.mgr.changingSdCard :=
  otherStep_changingSdCard (s := { s with tokens := s.tokens ++ [token] })
    ⟨.destruct s.tokens.length e.delvolume e.close, nofun⟩

/-- A token that was granted access gives it back. -/
theorem closeAccess_granted (e : CycleEnv) {token : Token} (hgranted : token.accessSuccess = true) :
    (closeAccess e token s).mgr = { s.mgr with activeAccesses := s.mgr.activeAccesses - 1 } := by
  have htoken : (s.tokens ++ [token])[s.tokens.length]? = some token := List.getElem?_concat_length
  exact (destruct_granted (s := { s with tokens := s.tokens ++ [token] }) e.delvolume e.close htoken
    hgranted).2

theorem selectSdCard_eq_zero {o : SelectOutcome} {volumeId : VolumeId} {fs : Filesystem}
    (h : SelectWorks o) : (selectSdCard volumeId true o fs).1 = 0 := by
  obtain ⟨henter, hinit⟩ := h
  unfold selectSdCard
  rw [if_neg (by simp [henter])]
  cases hvolume : o.initvolume with
  | ok => rfl
  | notFormatted => simpa only [hvolume] using hinit
  | failed code nonzero keeps => simp only [hvolume] at hinit

/-- A token that finds no change of the card going on, and whose calls work, is granted access. -/
theorem openAccess_granted {e : CycleEnv} (hchanging : s.mgr.changingSdCard = false)
    (hworks : AccessWorks e s) :
    (openAccess e s).1.accessSuccess = true ∧ (openAccess e s).1.accessResult = .ok ∧
      (openAccess e s).2.mgr.changingSdCard = false := by
  have hselect : ∀ fs, (selectSdCard s.mgr.activeSdCard true e.select fs).1 = 0 :=
    fun fs => selectSdCard_eq_zero hworks.2
  unfold openAccess construct
  rw [if_neg (by simp [hchanging])]
  by_cases hzero : s.mgr.activeAccesses = 0
  · simp [hzero, hselect, openFilesystem, hworks.1 hzero, hchanging]
  · simp [hzero, hselect, hchanging]

end Manager

/-! ## The parts of a cycle -/

section Parts

variable {h h' : Handler} {m : Message} {token : Token}

/-- A message touches neither the manager nor, unless it cancels it, a running operation. -/
theorem handleMessage_frame (hrun : handleMessage m h = some h') :
    h'.sys = h.sys ∧
      (h.stateMachine.internalState ≠ .idle → ¬ m.Cancels → h'.stateMachine.internalState ≠ .idle) := by
  cases m with
  | action c o card =>
      cases hrun
      refine ⟨rfl, fun hbusy hcancel => ?_⟩
      have hkept := Actions.executeAction_stateMachine o h.actions hcancel
      show (Actions.executeAction c o h.actions).handler.stateMachine.internalState ≠ .idle
      rw [hkept]
      exact hbusy
  | file sender m card =>
      obtain ⟨⟨handled, files⟩, hfile, rfl⟩ := Option.map_eq_some_iff.mp hrun
      refine ⟨rfl, fun hbusy _ => ?_⟩
      have hkept := FileCommand.handleFileMessage_internalState hfile hbusy
      show files.stateMachine.internalState ≠ .idle
      rw [hkept]
      exact hbusy

theorem drive_sys {call : CopyCall} (hrun : drive call h = some h') : h'.sys = h.sys := by
  obtain ⟨copy, _, rfl⟩ := Option.map_eq_some_iff.mp hrun
  rfl

theorem receiveMessage_frame {error : Option Code} {received : Received}
    (hreceive : receiveMessage error h = (received, h')) :
    ∃ queue partner, h' = { h with queue := queue, lastPartner := partner } := by
  unfold receiveMessage at hreceive
  split at hreceive
  · cases hreceive
    exact ⟨_, _, rfl⟩
  · cases hreceive
    exact ⟨_, _, rfl⟩
  · cases hreceive
    exact ⟨_, _, rfl⟩

/-- What a loop does: it drives the state machine or handles messages, with the token of the cycle. -/
def OnToken (token : Token) (entries : List Entry) : Prop :=
  ∀ entry ∈ entries, entry = .driven ∨ ∃ m, entry = .handled m token

/-- A pass drives a busy state machine and leaves the manager alone. -/
theorem cyclePass_spec {pass : Pass} {entries : List Entry} {goesOn : Bool}
    (hrun : cyclePass token pass h = some (entries, goesOn, h')) :
    OnToken token entries ∧ h'.sys = h.sys ∧
      (h.stateMachine.internalState ≠ .idle → .driven ∈ entries) := by
  unfold cyclePass at hrun
  by_cases hbusy : h.stateMachine.internalState ≠ .idle
  · rw [if_pos hbusy] at hrun
    obtain ⟨h₁, hdrive, heq⟩ := Option.map_eq_some_iff.mp hrun
    cases heq
    refine ⟨?_, drive_sys hdrive, fun _ => List.mem_singleton_self _⟩
    intro entry hentry
    exact .inl (List.mem_singleton.mp hentry)
  · rw [if_neg hbusy] at hrun
    split at hrun
    next h₁ hreceive =>
      obtain ⟨queue, partner, rfl⟩ := receiveMessage_frame hreceive
      cases hrun
      exact ⟨fun entry hentry => (nomatch hentry), rfl, fun h => absurd h hbusy⟩
    next h₁ hreceive =>
      obtain ⟨queue, partner, rfl⟩ := receiveMessage_frame hreceive
      cases hrun
      exact ⟨fun entry hentry => (nomatch hentry), rfl, fun h => absurd h hbusy⟩
    next m h₁ hreceive =>
      obtain ⟨queue, partner, rfl⟩ := receiveMessage_frame hreceive
      obtain ⟨h₂, hhandle, heq⟩ := Option.map_eq_some_iff.mp hrun
      cases heq
      refine ⟨?_, (handleMessage_frame hhandle).1, fun h => absurd h hbusy⟩
      intro entry hentry
      exact .inr ⟨m, List.mem_singleton.mp hentry⟩

theorem cycleLoop_spec {passes : List Pass} :
    ∀ {h h' : Handler} {entries : List Entry}, cycleLoop token passes h = some (entries, h') →
      OnToken token entries ∧ h'.sys = h.sys ∧
        (passes ≠ [] → h.stateMachine.internalState ≠ .idle → .driven ∈ entries) := by
  induction passes with
  | nil =>
      intro h h' entries hrun
      cases hrun
      exact ⟨fun entry hentry => (nomatch hentry), rfl, fun hne => absurd rfl hne⟩
  | cons pass passes ih =>
      intro h h' entries hrun
      rw [cycleLoop] at hrun
      split at hrun
      next => cases hrun
      next entries₁ goesOn h₁ hpass =>
        obtain ⟨htoken, hsys, hdriven⟩ := cyclePass_spec hpass
        cases goesOn with
        | false =>
            cases hrun
            exact ⟨htoken, hsys, fun _ hbusy => hdriven hbusy⟩
        | true =>
            obtain ⟨⟨entries₂, h₂⟩, hloop, heq⟩ := Option.map_eq_some_iff.mp hrun
            cases heq
            obtain ⟨htoken₂, hsys₂, _⟩ := ih hloop
            refine ⟨?_, hsys₂.trans hsys, fun _ hbusy => List.mem_append_left _ (hdriven hbusy)⟩
            intro entry hentry
            rcases List.mem_append.mp hentry with hentry | hentry
            · exact htoken entry hentry
            · exact htoken₂ entry hentry

theorem cycleRest_spec {e : CycleEnv} {entries : List Entry}
    (hrun : cycleRest e token h = some (entries, h')) :
    OnToken token entries ∧ h'.sys = h.sys ∧
      (e.timedOut = false → e.passes ≠ [] → h.stateMachine.internalState ≠ .idle →
        .driven ∈ entries) := by
  unfold cycleRest at hrun
  by_cases htimedOut : e.timedOut = true
  · rw [if_pos htimedOut] at hrun
    cases hrun
    exact ⟨fun entry hentry => (nomatch hentry), rfl, fun htime => by simp [htimedOut] at htime⟩
  · rw [if_neg htimedOut] at hrun
    obtain ⟨htoken, hsys, hdriven⟩ := cycleLoop_spec hrun
    exact ⟨htoken, hsys, fun _ => hdriven⟩

/-- A change that is pending is finished if no access is active; the cycle goes on. -/
theorem finishChange_done (hchanging : h.sys.mgr.changingSdCard = false)
    (hfree : h.sdCardChangeOngoing = true → h.sys.mgr.activeAccesses = 0) :
    ∃ changed h', finishChange h = (true, changed, h') ∧
      h'.sys.mgr.changingSdCard = false ∧ h'.stateMachine = h.stateMachine ∧
      (h.sdCardChangeOngoing = true → .changed ∈ changed) ∧ ∀ entry ∈ changed, entry = .changed := by
  unfold finishChange
  by_cases hongoing : h.sdCardChangeOngoing = true
  · rw [if_pos hongoing, tryActiveSdCardChange, if_pos (hfree hongoing)]
    refine ⟨_, _, rfl, rfl, ?_, fun _ => List.mem_singleton_self _,
      fun entry hentry => List.mem_singleton.mp hentry⟩
    unfold Actions.finishSdCardChange
    split_ifs <;> rfl
  · rw [if_neg hongoing]
    exact ⟨_, _, rfl, hchanging, rfl, fun h => absurd h hongoing, by simp⟩

theorem accessSystem_changingSdCard {e : CycleEnv} {changed : List Entry}
    (hfinish : finishChange h = (true, changed, h')) :
    (accessSystem e h).mgr.changingSdCard = h'.sys.mgr.changingSdCard := by
  rw [accessSystem, hfinish]
  exact otherSteps_changingSdCard _ _

end Parts

/-! ## Main result -/

section

variable {e : CycleEnv} {m : Message} {h h' : Handler} {entries : List Entry}

/-- A good cycle with a message goes through to the loop. -/
theorem performMessage_kept (hchanging : h.sys.mgr.changingSdCard = false)
    (hfree : h.sdCardChangeOngoing = true → h.sys.mgr.activeAccesses = 0)
    (hworks : AccessWorks e (accessSystem e h))
    (hcontinues : h.stateMachine.internalState ≠ .idle →
      m.Cancels ∨ (e.timedOut = false ∧ e.passes ≠ []))
    (hrun : performMessage e m h = some (entries, h')) :
    Kept h entries ∧ h'.sys.mgr.changingSdCard = false := by
  obtain ⟨changed, h₁, hfinish, hchanging₁, hmachine, hchanged, honly⟩ :=
    finishChange_done hchanging hfree
  have haccess := (accessSystem_changingSdCard (e := e) hfinish).trans hchanging₁
  obtain ⟨hsuccess, hresult, hchanging₂⟩ := openAccess_granted haccess hworks
  unfold performMessage at hrun
  rw [hfinish] at hrun
  dsimp only at hrun
  rw [handleSdCardAccessResult, hresult] at hrun
  dsimp only at hrun
  split at hrun
  next => cases hrun
  next h₂ hhandle =>
    obtain ⟨⟨rest, h₃⟩, hrest, heq⟩ := Option.map_eq_some_iff.mp hrun
    cases heq
    obtain ⟨hsys₂, hbusy₂⟩ := handleMessage_frame hhandle
    obtain ⟨htoken, hsys₃, hdriven⟩ := cycleRest_spec hrest
    -- the entries: the change, the first message, and what the loop does
    refine ⟨⟨?_, ?_, ?_, ?_⟩, ?_⟩
    · intro m' hm'
      rcases List.mem_append.mp hm' with hm' | hm'
      · cases honly _ hm'
      · rcases List.mem_cons.mp hm' with hm' | hm'
        · cases hm'
        · rcases htoken _ hm' with hm' | ⟨_, hm'⟩
          · cases hm'
          · cases hm'
    · intro m' token hm'
      rcases List.mem_append.mp hm' with hm' | hm'
      · cases honly _ hm'
      · rcases List.mem_cons.mp hm' with hm' | hm'
        · cases hm'
          exact ⟨hsuccess, hresult⟩
        · rcases htoken _ hm' with hm' | ⟨_, hm'⟩
          · cases hm'
          · cases hm'
            exact ⟨hsuccess, hresult⟩
    · intro hongoing _
      exact List.mem_append_left _ (hchanged hongoing)
    · -- a busy state machine stays busy up to the loop, unless the message cancels
      intro hbusy
      by_cases hcancel : m.Cancels
      · exact .inr ⟨m, _, List.mem_append_right _ List.mem_cons_self, hcancel⟩
      · obtain ⟨htime, hpasses⟩ := (hcontinues hbusy).resolve_left hcancel
        have hbusy₁ : h₁.stateMachine.internalState ≠ .idle := by
          rw [hmachine]
          exact hbusy
        exact .inl (List.mem_append_right _
          (List.mem_cons_of_mem _ (hdriven htime hpasses (hbusy₂ hbusy₁ hcancel))))
    · show (closeAccess e _ (otherSteps e.behind h₃.sys)).mgr.changingSdCard = false
      rw [closeAccess_changingSdCard, otherSteps_changingSdCard, hsys₃, hsys₂]
      exact hchanging₂

/-- The queue plays no part in a change of the card. -/
theorem accessSystem_queue (queue : List Message) (partner : MessageQueueId) :
    accessSystem e { h with queue := queue, lastPartner := partner } = accessSystem e h := by
  unfold accessSystem finishChange
  dsimp only
  split_ifs <;> rfl

theorem performOperation_kept (hchanging : h.sys.mgr.changingSdCard = false) (hgood : CycleGood e h)
    (hrun : performOperation e h = some (entries, h')) :
    Kept h entries ∧ h'.sys.mgr.changingSdCard = false := by
  -- a cycle without a message
  have hnothing : (h.sdCardChangeOngoing = true → h.sys.mgr.activeAccesses ≠ 0) →
      h.stateMachine.internalState = .idle → Kept h [] := by
    intro hactive hidle
    refine ⟨fun m hm => (nomatch hm), fun m token hm => (nomatch hm), ?_, ?_⟩
    · exact fun hongoing hzero => absurd hzero (hactive hongoing)
    · exact fun hbusy => absurd hidle hbusy
  unfold performOperation at hrun
  unfold CycleGood at hgood
  split at hrun
  next m h₁ hreceive =>
    obtain ⟨queue, partner, rfl⟩ := receiveMessage_frame hreceive
    rw [hreceive] at hgood
    obtain ⟨hfree, hworks, hcontinues⟩ := hgood
    have hmessage := performMessage_kept
      (h := { h with queue := queue, lastPartner := partner }) hchanging hfree
      (by rw [accessSystem_queue]; exact hworks) hcontinues hrun
    obtain ⟨⟨hanswered, hgranted, hchanged, hcontinued⟩, hleft⟩ := hmessage
    exact ⟨⟨hanswered, hgranted, hchanged, hcontinued⟩, hleft⟩
  next h₁ hreceive =>
    obtain ⟨queue, partner, rfl⟩ := receiveMessage_frame hreceive
    rw [hreceive] at hgood
    cases hrun
    exact ⟨hnothing hgood.1 hgood.2, hchanging⟩
  next h₁ hreceive =>
    obtain ⟨queue, partner, rfl⟩ := receiveMessage_frame hreceive
    rw [hreceive] at hgood
    cases hrun
    exact ⟨hnothing hgood.1 hgood.2, hchanging⟩

theorem stepEvent_changingSdCard {event : Event} (hchanging : h.sys.mgr.changingSdCard = false)
    (hgood : EventGood event h) (hstep : stepEvent event h = some (.next h')) :
    h'.sys.mgr.changingSdCard = false := by
  cases event with
  | arrive m =>
      cases hstep
      exact hchanging
  | other o =>
      cases hstep
      exact (otherStep_changingSdCard o).trans hchanging
  | cycle e =>
      obtain ⟨⟨entries, h₁⟩, hrun, heq⟩ := Option.map_eq_some_iff.mp hstep
      cases heq
      exact (performOperation_kept hchanging hgood hrun).2

end

/-- A cycle in which every call works, without time for a pass behind the first message. -/
def smoothCycle : CycleEnv where
  receive := none
  openFs := ⟨0, false⟩
  select := ⟨0, .ok, 0⟩
  unset := .sdCard0
  before := []
  timedOut := false
  passes := []
  behind := []
  delvolume := 0
  close := ⟨0, 0, false, 0⟩

/-- A card without files. -/
def emptyCard : Card := fun _ => none

/-- A request to change the active card. -/
def selectActive : Message :=
  .action ⟨Actions.selectActiveSdCard, 1, []⟩ Actions.formatted emptyCard

/-- The handler at startup with that card. -/
def started : Handler := .initial .sdCard0 emptyCard fun _ => 0

/-- The access of a smooth cycle is given back. -/
theorem smoothCycle_released :
    (closeAccess smoothCycle ⟨true, .ok, .sdCard0⟩
      (openAccess smoothCycle (init .sdCard0)).2).mgr.activeAccesses = 0 :=
  congrArg Manager.activeAccesses (closeAccess_granted smoothCycle rfl)

end Cycle
end Sdc
end Obsw
