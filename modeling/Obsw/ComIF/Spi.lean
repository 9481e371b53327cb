import Mathlib.Logic.Function.Basic
import Obsw.Lib.Loop

/-!
# `ComIF.Spi` — the SPI communication interface

`SpiDeviceComIF`: all cookies share one semaphore, which is taken in front of `SPI_queueTransfer` and
given back by `SPIcallback`. The driver is not part of the repository: it takes a transfer into its queue
or refuses it, and works the queue off in order. Nothing tells the callback how a transfer ended.

`readReceivedMessage` takes a free semaphore for a completed transfer of its cookie. That is right in
runs whose reads satisfy `ReadFits` (`reads_right_iff`).
-/

namespace Obsw
namespace Spi

open Loop

/-- A cookie by its address. -/
abbrev CookieId := Nat

inductive ComStatus where
  | idle
  | transferInitSuccess
  | transferSuccess
  | faulty
  deriving DecidableEq, Repr

/-- The return values other than `RETURN_OK`. -/
inductive Code where
  | returnFailed
  | spiCommunicationTimeout
  | spiTransferInvalidTransferStruct
  | spiTransferInvalidDriverParams
  | spiTransferQueueInitFailure
  deriving DecidableEq, Repr

/-- `SpiStruct`: what the cookie holds of a transfer, and the reply buffer. The code is the one for a
    faulty communication; `none` stands for `RETURN_OK`. -/
structure SpiStruct where
  comStatus : ComStatus
  errorReturnvalue : Option Code
  transferLen : Nat
  spiReplyBuffer : List UInt8

/-- How the last send of a cookie stands. -/
inductive SendState where
  | refused
  | pending
  | completed
  | failed
  deriving DecidableEq, Repr

/-- The interface with the queue of the driver, whose transfers are numbered. The last three fields are
    for the statements: they follow what became of each send, and whether a send was taken into the queue
    since the semaphore was given the last time. -/
structure Interface where
  semaphoreFree : Bool
  spiMap : CookieId → Option SpiStruct
  queue : List (Nat × CookieId)
  sends : Nat
  latest : CookieId → Option Nat
  sendState : Nat → SendState
  queuedSince : Bool

namespace Interface

/-- A change of what the map holds for a cookie. -/
def setStruct (s : Interface) (c : CookieId) (spiStruct : SpiStruct) : Interface :=
  { s with spiMap := Function.update s.spiMap c (some spiStruct) }

/-- `release`: a semaphore that is free stays free. -/
def release (s : Interface) : Interface := { s with semaphoreFree := true }

def latestState (s : Interface) (c : CookieId) : Option SendState := (s.latest c).map s.sendState

end Interface

/-! ## `sendMessage` -/

/-- `setCurrentComStatus`. -/
def SpiStruct.setCurrentComStatus (m : SpiStruct) (comStatus : ComStatus) (errorResult : Option Code) :
    SpiStruct := { m with comStatus := comStatus, errorReturnvalue := errorResult }

/-- The code `handleSpiTransferInitResult` sets for a transfer that was refused. -/
def initResultCode (driverResult : Int) : Code :=
  if driverResult = -3 then .spiTransferInvalidTransferStruct
  else if driverResult = -2 then .spiTransferInvalidDriverParams
  else if driverResult = -1 then .spiTransferQueueInitFailure
  else .returnFailed

/-- `handleSpiTransferInitResult`. -/
def handleSpiTransferInitResult (c : CookieId) (m : SpiStruct) (driverResult : Int) (s : Interface) :
    Interface :=
  if driverResult = 0 then s.setStruct c (m.setCurrentComStatus .transferInitSuccess none)
  else (s.setStruct c (m.setCurrentComStatus .faulty (some (initResultCode driverResult)))).release

/-- The send is given its number. -/
def Interface.record (c : CookieId) (driverResult : Int) (s : Interface) : Interface :=
  { s with
    queue := if driverResult = 0 then s.queue ++ [(s.sends, c)] else s.queue
    sends := s.sends + 1
    latest := Function.update s.latest c (some s.sends)
    sendState := Function.update s.sendState s.sends (if driverResult = 0 then .pending else .refused)
    queuedSince := decide (driverResult = 0) }

/-- `sendMessage`. A semaphore that does not come free in time is not waited for any longer, and the
    transfer is queued all the same. -/
def sendMessage (c : CookieId) (sendLen : Nat) (driverResult : Int) (s : Interface) :
    Option Code × Interface :=
  match s.spiMap c with
  | none => (some .returnFailed, s)
  | some m =>
    (none, handleSpiTransferInitResult c { m with transferLen := sendLen } driverResult
      ({ s with semaphoreFree := false }.record c driverResult))

/-- `getSendSuccess`. -/
def getSendSuccess (c : CookieId) (s : Interface) : Option Code :=
  match s.spiMap c with
  | none => some .returnFailed
  | some m => if m.comStatus = .faulty then m.errorReturnvalue else none

/-! ## `readReceivedMessage` -/

/-- What `readReceivedMessage` returns. -/
inductive ReadResult where
  | reply (buffer : List UInt8) (size : Nat)
  | noReplyReceived
  | error (code : Option Code)
  deriving DecidableEq, Repr

/-- `checkTransferResult`. The semaphore is given back also where it was not taken. -/
def checkTransferResult (c : CookieId) (m : SpiStruct) (s : Interface) : SpiStruct × Interface :=
  let m := if s.semaphoreFree then m.setCurrentComStatus .transferSuccess none
    else m.setCurrentComStatus .faulty (some .spiCommunicationTimeout)
  (m, { (s.setStruct c m).release with queuedSince := false })

/-- `readReceivedMessage`. -/
def readReceivedMessage (c : CookieId) (s : Interface) : ReadResult × Interface :=
  match s.spiMap c with
  | none => (.error (some .returnFailed), s)
  | some m =>
    let checked := checkTransferResult c m s
    match checked.1.comStatus with
    | .transferSuccess => (.reply checked.1.spiReplyBuffer checked.1.transferLen, checked.2)
    | .transferInitSuccess => (.noReplyReceived, checked.2)
    | .idle => (.error checked.1.errorReturnvalue, checked.2)
    | .faulty => (.error checked.1.errorReturnvalue, checked.2)

/-! ## The driver -/

/-- How the transfer at the head of the queue ends. Whether a failed one calls back is left open. -/
inductive TransferEnd where
  | done (received : List UInt8)
  | failed (callback : Bool)

/-- `SPIcallback`. -/
def spiCallback (s : Interface) : Interface := { s.release with queuedSince := false }

def driverStep (e : TransferEnd) (s : Interface) : Interface :=
  match s.queue with
  | [] => s
  | (n, c) :: queue =>
    let s := { s with queue := queue }
    match e with
    | .done received =>
      let s := { s with sendState := Function.update s.sendState n .completed }
      let s := match s.spiMap c with
        | none => s
        | some m => s.setStruct c { m with spiReplyBuffer := received }
      spiCallback s
    | .failed callback =>
      let s := { s with sendState := Function.update s.sendState n .failed }
      if callback then spiCallback s else s

/-! ## Runs -/

/-- A call stands where its wait for the semaphore is over. -/
inductive Event where
  | send (c : CookieId) (sendLen : Nat) (driverResult : Int)
  | read (c : CookieId)
  | finish (e : TransferEnd)

def step : Event → Interface → Interface
  | .send c sendLen driverResult, s => (sendMessage c sendLen driverResult s).2
  | .read c, s => (readReceivedMessage c s).2
  | .finish e, s => driverStep e s

/-- The cookies in the map have just been initialised. -/
def Interface.initial (registered : CookieId → Bool) : Interface where
  semaphoreFree := true
  spiMap := fun c => if registered c then some ⟨.idle, some .returnFailed, 0, []⟩ else none
  queue := []
  sends := 0
  latest := fun _ => none
  sendState := fun _ => .pending
  queuedSince := false

/-! ## What is promised -/

/-- A reply is handed out only if the last send of the cookie was queued and is completed, and a send
    that was refused or failed is reported. -/
structure ReadRight (sent : Option SendState) (result : ReadResult) : Prop where
  reply : ∀ buffer size, result = .reply buffer size → sent = some .completed
  error : sent = some .refused ∨ sent = some .failed → ∃ code, result = .error (some code)

def EventRight (e : Event) (s : Interface) : Prop :=
  match e with
  | .read c => ReadRight (s.latestState c) (readReceivedMessage c s).1
  | _ => True

/-- A transfer was queued since the semaphore was given the last time, or the last send of the cookie is
    completed; or there is no such cookie. -/
def ReadFits (e : Event) (s : Interface) : Prop :=
  match e with
  | .read c => s.spiMap c = none ∨ s.queuedSince = true ∨ s.latestState c = some .completed
  | _ => True

/-! ## One event -/

/-- The semaphore is taken exactly while a transfer was queued since it was given. -/
def SemaphoreFollows (s : Interface) : Prop := s.semaphoreFree = !s.queuedSince

theorem semaphoreFollows_send (c : CookieId) (sendLen : Nat) (driverResult : Int) {s : Interface}
    (h : SemaphoreFollows s) : SemaphoreFollows (sendMessage c sendLen driverResult s).2 := by
  unfold sendMessage
  cases s.spiMap c with
  | none => exact h
  | some m =>
      dsimp only
      unfold handleSpiTransferInitResult
      by_cases hqueued : driverResult = 0
      · rw [if_pos hqueued]
        subst hqueued
        rfl
      · rw [if_neg hqueued]
        show true = !decide (driverResult = 0)
        rw [decide_eq_false hqueued]
        rfl

theorem semaphoreFollows_read (c : CookieId) {s : Interface} (h : SemaphoreFollows s) :
    SemaphoreFollows (readReceivedMessage c s).2 := by
  unfold readReceivedMessage
  cases s.spiMap c with
  | none => exact h
  | some m =>
      dsimp only
      split <;> rfl

theorem semaphoreFollows_driver (e : TransferEnd) {s : Interface} (h : SemaphoreFollows s) :
    SemaphoreFollows (driverStep e s) := by
  unfold driverStep
  cases s.queue with
  | nil => exact h
  | cons head queue =>
      cases e with
      | done received => rfl
      | failed callback =>
          cases callback with
          | true => rfl
          | false => exact h

theorem step_semaphoreFollows (e : Event) (s : Interface) (h : SemaphoreFollows s) :
    SemaphoreFollows (step e s) := by
  cases e with
  | send c sendLen driverResult => exact semaphoreFollows_send c sendLen driverResult h
  | read c => exact semaphoreFollows_read c h
  | finish e => exact semaphoreFollows_driver e h

/-- A read goes by the semaphore, whatever became of the last send. -/
theorem readReceivedMessage_eq {c : CookieId} {m : SpiStruct} {s : Interface} (hm : s.spiMap c = some m) :
    (readReceivedMessage c s).1 =
      if s.semaphoreFree then .reply m.spiReplyBuffer m.transferLen
      else .error (some .spiCommunicationTimeout) := by
  unfold readReceivedMessage checkTransferResult
  rw [hm]
  cases hfree : s.semaphoreFree <;> rfl

/-- **One event.** -/
theorem eventRight_iff (e : Event) (s : Interface) (h : SemaphoreFollows s) :
    EventRight e s ↔ ReadFits e s := by
  cases e with
  | send _ _ _ => exact Iff.rfl
  | finish _ => exact Iff.rfl
  | read c =>
      show ReadRight (s.latestState c) (readReceivedMessage c s).1 ↔
        s.spiMap c = none ∨ s.queuedSince = true ∨ s.latestState c = some .completed
      cases hm : s.spiMap c with
      | none =>
          have hresult : (readReceivedMessage c s).1 = .error (some .returnFailed) := by
            unfold readReceivedMessage
            rw [hm]
          rw [hresult]
          exact iff_of_true ⟨fun _ _ h => (by cases h), fun _ => ⟨_, rfl⟩⟩ (Or.inl rfl)
      | some m =>
          rw [readReceivedMessage_eq hm, show s.semaphoreFree = !s.queuedSince from h]
          cases hqueued : s.queuedSince with
          | true => exact iff_of_true ⟨fun _ _ h => (by cases h), fun _ => ⟨_, rfl⟩⟩ (Or.inr (Or.inl rfl))
          | false =>
              constructor
              · exact fun hright => Or.inr (Or.inr (hright.reply _ _ rfl))
              · rintro (hnone | hfalse | hcompleted)
                · cases hnone
                · cases hfalse
                · refine ⟨fun _ _ _ => hcompleted, fun hbad => ?_⟩
                  rw [hcompleted] at hbad
                  rcases hbad with hbad | hbad <;> cases hbad

/-- **Replies of the SPI interface.** Along every run, the reads hand out what belongs to the last send
    of their cookie exactly if each of them comes behind the completion of that send, or too early for
    any. -/
theorem reads_right_iff (registered : CookieId → Bool) (events : List Event) :
    AlongRun EventRight step events (.initial registered) ↔
      AlongRun ReadFits step events (.initial registered) :=
  alongRun_congr_of_invariant step_semaphoreFollows eventRight_iff events _ rfl

/-- A transfer that was refused gives a reply. -/
theorem refused_send_gives_reply :
    ¬ ∀ (registered : CookieId → Bool) (events : List Event),
      AlongRun EventRight step events (.initial registered) := by
  intro h
  have hread := (h (fun _ => true) [.send 0 1 (-3), .read 0]).2.1
  exact absurd (hread.reply [] 1 rfl) (by decide)

/-- `getSendSuccess` reports a refused send, until the next read. -/
theorem getSendSuccess_refused (c : CookieId) (sendLen : Nat) {driverResult : Int} (s : Interface)
    (hrefused : driverResult ≠ 0) :
    ∃ code, getSendSuccess c (sendMessage c sendLen driverResult s).2 = some code := by
  cases hm : s.spiMap c with
  | none =>
      refine ⟨.returnFailed, ?_⟩
      unfold sendMessage
      rw [hm]
      unfold getSendSuccess
      rw [hm]
  | some m =>
      refine ⟨initResultCode driverResult, ?_⟩
      unfold sendMessage
      rw [hm]
      dsimp only
      unfold handleSpiTransferInitResult getSendSuccess
      rw [if_neg hrefused]
      simp [Interface.release, Interface.setStruct, SpiStruct.setCurrentComStatus]

end Spi
end Obsw
