import Obsw.Lib.Loop

/-!
# `ComIF.UsbSend` — sending messages over USB

`USBDeviceComIF::sendMessage` hands a message over to the USB driver, whose callback says later how the
transfer went. A call that finds the last transfer unfinished or failed takes note of it and goes on; the
note is never taken back, and every call behind it is refused.

- **The interface.** `sendMessage` and `usbDataSent` over the state they share.
- **Runs.** `Past` follows the calls and the callbacks, and nothing of the code.
- **Sending again.** `sends_again_iff`, and `refused_for_good`.
-/

namespace Obsw
namespace UsbSend

open Loop

/-! ## The interface -/

def usbdStatusSuccess : UInt8 := 0

def usbdStatusAborted : UInt8 := 2

inductive TransferStates where
  | writeSuccess
  | writeBusy
  | writeFailure
deriving DecidableEq, Repr

/-- What sending reads and writes, with the driver's endpoint. -/
structure SendState where
  writeState : TransferStates
  errorOccuredOnce : Bool
  sentDataLen : Nat
  errorStatus : UInt8
  /-- the driver has a transfer that is not complete -/
  pending : Bool

/-- The interface as it is constructed. -/
def SendState.initial : SendState := ⟨.writeSuccess, false, 0, 0, false⟩

/-- What a call returns, and the message that it handed over to the driver. -/
structure Sent where
  returnOk : Bool
  written : Option (List UInt8)
deriving DecidableEq

/-- `sendMessage` behind the checks of the last transfer. The result of the driver is not used. -/
def write (configured : Bool) (sendData : List UInt8) (writeResult : UInt8) (s : SendState) :
    Sent × SendState :=
  if configured = false then (⟨false, none⟩, s)
  else
    (⟨true, some sendData⟩,
      { s with
        sentDataLen := 0
        writeState := .writeBusy
        pending := s.pending || writeResult == usbdStatusSuccess })

def sendMessage (configured : Bool) (sendData : List UInt8) (writeResult : UInt8) (s : SendState) :
    Sent × SendState :=
  if (s.writeState = .writeBusy ∨ s.writeState = .writeFailure) ∧ ¬ s.errorOccuredOnce = true then
    -- allow one failure
    write configured sendData writeResult
      { s with writeState := .writeSuccess, errorOccuredOnce := true }
  else if s.errorOccuredOnce = true then (⟨false, none⟩, s)
  else write configured sendData writeResult s

def getSendSuccess (s : SendState) : Bool :=
  decide (s.writeState = .writeSuccess ∨ s.writeState = .writeBusy)

/-- The callback of a transfer. -/
def usbDataSent (status : UInt8) (transferred : Nat) (s : SendState) : SendState :=
  if status = usbdStatusSuccess then
    { s with writeState := .writeSuccess, sentDataLen := transferred, pending := false }
  else
    { s with
      errorStatus := status
      writeState := .writeFailure
      sentDataLen := transferred
      pending := false }

theorem sendMessage_refused {s : SendState} (h : s.errorOccuredOnce = true) (configured : Bool)
    (sendData : List UInt8) (writeResult : UInt8) :
    sendMessage configured sendData writeResult s = (⟨false, none⟩, s) := by
  unfold sendMessage
  rw [if_neg fun hfirst => hfirst.2 h, if_pos h]

theorem sendMessage_settled {s : SendState} (h : s.errorOccuredOnce = false)
    (hsettled : s.writeState = .writeSuccess) (configured : Bool) (sendData : List UInt8)
    (writeResult : UInt8) :
    sendMessage configured sendData writeResult s = write configured sendData writeResult s := by
  unfold sendMessage
  rw [hsettled, h, if_neg fun hfirst => by simp at hfirst, if_neg Bool.false_ne_true]

theorem sendMessage_first {s : SendState} (h : s.errorOccuredOnce = false)
    (hunsettled : s.writeState ≠ .writeSuccess) (configured : Bool) (sendData : List UInt8)
    (writeResult : UInt8) :
    sendMessage configured sendData writeResult s =
      write configured sendData writeResult
        { s with writeState := .writeSuccess, errorOccuredOnce := true } := by
  have hstate : s.writeState = .writeBusy ∨ s.writeState = .writeFailure := by
    cases hwrite : s.writeState with
    | writeSuccess => exact absurd hwrite hunsettled
    | writeBusy => exact .inl rfl
    | writeFailure => exact .inr rfl
  unfold sendMessage
  rw [if_pos ⟨hstate, by rw [h]; exact Bool.false_ne_true⟩]

theorem write_errorOccuredOnce (configured : Bool) (sendData : List UInt8) (writeResult : UInt8)
    (s : SendState) :
    (write configured sendData writeResult s).2.errorOccuredOnce = s.errorOccuredOnce := by
  unfold write
  split <;> rfl

/-- The code hands the message over unless it has taken note of an error, or the device is not
    configured. -/
theorem sendMessage_written (configured : Bool) (sendData : List UInt8) (writeResult : UInt8)
    (s : SendState) : (sendMessage configured sendData writeResult s).1.written =
      if configured = true ∧ s.errorOccuredOnce = false then some sendData else none := by
  unfold sendMessage write
  cases configured <;> cases s.errorOccuredOnce <;> cases s.writeState <;> rfl

/-! ## Runs -/

inductive Event where
  | sendMessage (configured : Bool) (sendData : List UInt8) (writeResult : UInt8)
  | usbDataSent (status : UInt8) (transferred : Nat)

def serve : Event → SendState → SendState
  | .sendMessage configured sendData writeResult, s => (sendMessage configured sendData writeResult s).2
  | .usbDataSent status transferred, s => usbDataSent status transferred s

/-- What has happened so far. -/
structure Past where
  /-- no transfer was to be started, and none failed, since the last one that was successful -/
  settled : Bool
  /-- a transfer was successful since the last call -/
  succeeded : Bool
  /-- a call was made that found this unsettled -/
  troubled : Bool

def Past.initial : Past := ⟨true, false, false⟩

def Past.after : Event → Past → Past
  | .sendMessage configured _ _, p => ⟨p.settled && !configured, false, p.troubled || !p.settled⟩
  | .usbDataSent status _, p =>
    ⟨status == usbdStatusSuccess, p.succeeded || status == usbdStatusSuccess, p.troubled⟩

/-- The interface and what has happened to it. -/
structure Usage where
  state : SendState
  past : Past

def Usage.initial : Usage := ⟨.initial, .initial⟩

def step (e : Event) (u : Usage) : Usage := ⟨serve e u.state, u.past.after e⟩

/-- The first call behind a successful transfer hands its message over, if no transfer is pending and the
    device is configured. -/
def SendsAgain : Event → Usage → Prop
  | .sendMessage configured sendData writeResult, u =>
    u.past.succeeded = true → u.state.pending = false → configured = true →
      (sendMessage configured sendData writeResult u.state).1.written = some sendData
  | .usbDataSent _ _, _ => True

/-- No call before this one was made while a transfer was unfinished or had failed. -/
def Untroubled : Event → Usage → Prop
  | .sendMessage configured _ _, u =>
    u.past.succeeded = true → configured = true → u.past.troubled = false
  | .usbDataSent _ _, _ => True

/-- The call is refused. -/
def Refused : Event → SendState → Prop
  | .sendMessage configured sendData writeResult, s =>
    sendMessage configured sendData writeResult s = (⟨false, none⟩, s)
  | .usbDataSent _ _, _ => True

/-! ## Sending again -/

/-- The flags of the code say what has happened, as long as they can. -/
structure Follows (u : Usage) : Prop where
  troubled : u.state.errorOccuredOnce = u.past.troubled
  settled : u.past.troubled = false → (u.state.writeState = .writeSuccess ↔ u.past.settled = true)
  pending : u.past.succeeded = true → u.state.pending = false

theorem follows_initial : Follows .initial := ⟨rfl, fun _ => iff_of_true rfl rfl, fun _ => rfl⟩

theorem follows_step (e : Event) (u : Usage) (h : Follows u) : Follows (step e u) := by
  obtain ⟨htroubled, hsettled, hpending⟩ := h
  cases e with
  | sendMessage configured sendData writeResult =>
    show Follows ⟨(sendMessage configured sendData writeResult u.state).2,
      ⟨u.past.settled && !configured, false, u.past.troubled || !u.past.settled⟩⟩
    by_cases htrouble : u.past.troubled = true
    · rw [htrouble] at htroubled ⊢
      rw [sendMessage_refused htroubled]
      exact ⟨htroubled, (nomatch ·), (nomatch ·)⟩
    · have huntroubled := Bool.not_eq_true _ ▸ htrouble
      have hstate := hsettled huntroubled
      rw [huntroubled] at htroubled ⊢
      by_cases hlast : u.past.settled = true
      · -- the flags stay what they are, but for a transfer that is started
        rw [sendMessage_settled htroubled (hstate.mpr hlast), hlast]
        refine ⟨?_, fun _ => ?_, (nomatch ·)⟩
        · rw [write_errorOccuredOnce, htroubled]
          rfl
        · unfold write
          cases configured with
          | true => exact iff_of_false (nomatch ·) (nomatch ·)
          | false => exact iff_of_true (hstate.mpr hlast) rfl
      · -- the call takes note of the trouble
        have hopen := Bool.not_eq_true _ ▸ hlast
        rw [sendMessage_first htroubled (mt hstate.mp hlast), hopen]
        refine ⟨?_, (nomatch ·), (nomatch ·)⟩
        rw [write_errorOccuredOnce]
        rfl
  | usbDataSent status transferred =>
    show Follows ⟨usbDataSent status transferred u.state,
      ⟨status == usbdStatusSuccess, u.past.succeeded || status == usbdStatusSuccess, u.past.troubled⟩⟩
    unfold usbDataSent
    by_cases hsuccess : status = usbdStatusSuccess
    · rw [if_pos hsuccess]
      exact ⟨htroubled, fun _ => iff_of_true rfl (beq_iff_eq.mpr hsuccess), fun _ => rfl⟩
    · rw [if_neg hsuccess]
      exact ⟨htroubled, fun _ => iff_of_false (nomatch ·) fun h => hsuccess (beq_iff_eq.mp h),
        fun _ => rfl⟩

/-- Behind a call that took note of an error, all calls are refused, whatever the callbacks say. -/
theorem refused_for_good {s : SendState} (h : s.errorOccuredOnce = true) (events : List Event) :
    AlongRun Refused serve events s := by
  refine alongRun_of_invariant (I := fun s => s.errorOccuredOnce = true)
    (fun e s hflag (_ : True) => ?_) (fun e s hflag _ => ?_) events s h (alongRun_true events s)
  · cases e with
    | sendMessage configured sendData writeResult => exact sendMessage_refused hflag _ _ _
    | usbDataSent status transferred => trivial
  · cases e with
    | sendMessage configured sendData writeResult =>
      rw [serve, sendMessage_refused hflag]
      exact hflag
    | usbDataSent status transferred =>
      show (usbDataSent status transferred s).errorOccuredOnce = true
      unfold usbDataSent
      by_cases hsuccess : status = usbdStatusSuccess
      · rw [if_pos hsuccess]
        exact hflag
      · rw [if_neg hsuccess]
        exact hflag

/-- **Sending again.** In a run, every first call behind a successful transfer hands its message over
    exactly if none of the calls before it was made while a transfer was unfinished or had failed. -/
theorem sends_again_iff (events : List Event) :
    AlongRun SendsAgain step events .initial ↔ AlongRun Untroubled step events .initial := by
  refine alongRun_congr_of_invariant (I := Follows) follows_step (fun e u h => ?_) events _
    follows_initial
  cases e with
  | usbDataSent status transferred => exact Iff.rfl
  | sendMessage configured sendData writeResult =>
    show (_ → _ → _ → _) ↔ (_ → _ → _)
    rw [sendMessage_written, h.troubled]
    constructor
    · intro hsends hsucceeded hconfigured
      have hwritten := hsends hsucceeded (h.pending hsucceeded) hconfigured
      by_contra htrouble
      rw [if_neg fun hand => htrouble hand.2] at hwritten
      cases hwritten
    · intro huntroubled hsucceeded _ hconfigured
      rw [if_pos ⟨hconfigured, huntroubled hsucceeded hconfigured⟩]

/-- A transfer was aborted, and the next one was successful. -/
def cured : SendState :=
  run serve [.sendMessage true [1] usbdStatusSuccess, .usbDataSent usbdStatusAborted 0,
    .sendMessage true [2] usbdStatusSuccess, .usbDataSent usbdStatusSuccess 1] .initial

/-- **A failure that was cured.** A transfer is aborted, the next one is successful, and the message
    behind it is refused, though everything sent is said to be sent. -/
theorem cured_failure_refused :
    sendMessage true [3] usbdStatusSuccess cured = (⟨false, none⟩, cured) ∧ getSendSuccess cured = true ∧
    ¬ ∀ events : List Event, AlongRun SendsAgain step events .initial := by
  have hrefused : sendMessage true [3] usbdStatusSuccess cured = (⟨false, none⟩, cured) := by rfl
  refine ⟨hrefused, rfl, fun h => ?_⟩
  have hsends := h [.sendMessage true [1] usbdStatusSuccess, .usbDataSent usbdStatusAborted 0,
    .sendMessage true [2] usbdStatusSuccess, .usbDataSent usbdStatusSuccess 1,
    .sendMessage true [3] usbdStatusSuccess]
  have hwritten : (sendMessage true [3] usbdStatusSuccess cured).1.written = some [3] :=
    hsends.2.2.2.2.1 rfl rfl rfl
  rw [hrefused] at hwritten
  cases hwritten

end UsbSend
end Obsw
