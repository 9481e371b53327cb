import Obsw.Lib.Guards
import Obsw.Lib.Loop

/-!
# `ComIF.I2c` — the I2C communication interface

`I2cDeviceComIF` with its cookies. The driver is not part of the repository: it takes a transfer into its
queue or refuses it, sets the status of a queued transfer, and at its end calls `I2cCallback`. Each
cookie has a semaphore of its own, which is taken in front of `I2C_queueTransfer` and released by the
callback.
-/

namespace Obsw
namespace I2c

open Loop

/-- A cookie by its number. -/
abbrev CookieId := Nat

inductive I2cCommunicationType where
  | unknown
  | separateWriteRead
  | consecutiveWriteRead
  deriving DecidableEq, Repr

inductive I2cDirection where
  | read
  | write
  | writeRead
  deriving DecidableEq, Repr

/-- `I2CtransferStatus`. -/
inductive TransferStatus where
  | done
  | pending
  | writeDone
  | writeDoneReadStarted
  | readError
  | writeError
  | error
  | timeoutError
  deriving DecidableEq, Repr

/-- The return values other than `RETURN_OK`. -/
inductive Code where
  | returnFailed
  | i2cDriverError
  | i2cTransferPending
  | i2cInvalidTransferParameters
  | i2cQueueTransferInitFailure
  | i2cWriteSemaphoreBlocked
  | i2cReadError
  | i2cWriteError
  | i2cTransferGeneralError
  | i2cTransferTimeoutError
  | i2cAddressNotInReceiveMap
  | i2cRxBufferTooSmall
  | protocolError
  | noReplyReceived
  | semaphoreTimeout
  deriving DecidableEq, Repr

/-- `I2CgenericTransfer`, with the cookie whose semaphore the callback is given. -/
structure GenericTransfer where
  slaveAddress : Nat
  direction : I2cDirection
  writeData : List UInt8
  readSize : Nat
  semaphore : CookieId
  deriving DecidableEq, Repr

/-- `I2cCookie`, without its semaphore. -/
structure Cookie where
  logicalAddress : Nat
  i2cComType : I2cCommunicationType
  i2cTransferStatus : TransferStatus
  i2cTransferStruct : GenericTransfer
  messageSent : Bool
  semaphResetCounter : UInt8
  deriving DecidableEq, Repr

def semaphResetTrigger : UInt8 := 3

def busCheckTrigger : UInt8 := 10

/-- The interface with its cookies: the sizes of the reply buffers by address, and the semaphores with the
    transfers the driver has taken. -/
structure Interface where
  cookies : CookieId → Cookie
  i2cVectorMap : Nat → Option Nat
  busCheckCounter : UInt8
  guards : Guards CookieId

/-- A change of one cookie. -/
def Interface.setCookie (c : CookieId) (f : Cookie → Cookie) (s : Interface) : Interface :=
  { s with cookies := Function.update s.cookies c (f (s.cookies c)) }

/-! ## The driver -/

/-- What the driver does with a transfer it has taken: set its status, and call `I2cCallback`. -/
inductive DriverEvent where
  | setStatus (c : CookieId) (status : TransferStatus)
  | callback (c : CookieId)

/-- `I2cCallback`: the semaphore of the transfer is released. -/
def Interface.i2cCallback (c : CookieId) (s : Interface) : Interface :=
  { s with guards := (s.guards.land c).release c }

/-- A step of the driver. It knows of no transfer that it has not taken. -/
def Interface.driverStep : DriverEvent → Interface → Interface
  | .setStatus c status, s =>
    if c ∈ s.guards.inFlight then s.setCookie c fun cookie => { cookie with i2cTransferStatus := status }
    else s
  | .callback c, s => if c ∈ s.guards.inFlight then s.i2cCallback c else s

/-- What a call meets: the state of the driver with the transfers a restart gives up, what the driver does
    while the call waits for a semaphore, and the result of `I2C_queueTransfer`. -/
structure CallOutcome where
  driverError : Bool
  dropped : List CookieId
  waiting : List DriverEvent
  queueTransfer : Int

/-- `I2C_stop` and `I2C_start`. -/
def Interface.restartBus (dropped : List CookieId) (s : Interface) : Interface :=
  { s with guards := s.guards.drop dropped }

/-- `checkI2cDriver`. The counter is not set back when the driver is restarted. -/
def checkI2cDriver (o : CallOutcome) (s : Interface) : Option Code × Interface :=
  let busCheckCounter := s.busCheckCounter + 1
  if busCheckCounter = busCheckTrigger then
    if o.driverError then
      (some .i2cDriverError, { s.restartBus o.dropped with busCheckCounter := busCheckCounter })
    else (none, { s with busCheckCounter := 1 })
  else (none, { s with busCheckCounter := busCheckCounter })

/-- `handleI2cTransferInitResult`. A failure leaves the semaphore as it is. -/
def handleI2cTransferInitResult (c : CookieId) (driverResult : Int) (isSendRequest : Bool)
    (s : Interface) : Option Code × Interface :=
  if driverResult = -2 then (some .i2cInvalidTransferParameters, s)
  else if driverResult = -1 then (some .i2cQueueTransferInitFailure, s)
  else if driverResult = 0 then
    (none, s.setCookie c fun cookie => { cookie with messageSent := isSendRequest })
  else (some .returnFailed, s)

/-- `I2C_queueTransfer` and what is made of its result. -/
def queueTransfer (c : CookieId) (isSendRequest : Bool) (o : CallOutcome) (s : Interface) :
    Option Code × Interface :=
  let s' :=
    if o.queueTransfer = 0 then
      { s.setCookie c fun cookie => { cookie with i2cTransferStatus := .pending } with
        guards := s.guards.launch c }
    else s
  handleI2cTransferInitResult c o.queueTransfer isSendRequest s'

/-! ## Sending -/

/-- `prepareI2cGenericTransfer`, and the direction its callers set. -/
def prepareI2cGenericTransfer (c : CookieId) (direction : I2cDirection) (s : Interface) : Interface :=
  s.setCookie c fun cookie =>
    { cookie with
      i2cTransferStruct :=
        { cookie.i2cTransferStruct with
          slaveAddress := cookie.logicalAddress
          semaphore := c
          direction := direction } }

/-- The data to be written. -/
def setWriteData (c : CookieId) (data : List UInt8) (s : Interface) : Interface :=
  s.setCookie c fun cookie =>
    { cookie with i2cTransferStruct := { cookie.i2cTransferStruct with writeData := data } }

/-- `setReceiveDataSize`. -/
def setReceiveDataSize (c : CookieId) (size : Nat) (s : Interface) : Interface :=
  s.setCookie c fun cookie =>
    { cookie with i2cTransferStruct := { cookie.i2cTransferStruct with readSize := size } }

/-- `prepareI2cConsecutiveTransfer`. An address without a buffer gets an empty one. -/
def prepareI2cConsecutiveTransfer (c : CookieId) (data : List UInt8) (s : Interface) :
    Option Code × Interface :=
  let address := (s.cookies c).logicalAddress
  let size := (s.i2cVectorMap address).getD 0
  let prepared := setWriteData c data (prepareI2cGenericTransfer c .writeRead s)
  let s' := { prepared with i2cVectorMap := Function.update s.i2cVectorMap address (some size) }
  if (s.cookies c).i2cTransferStruct.readSize > size then (some .i2cRxBufferTooSmall, s')
  else (none, s')

/-- `prepareI2cWriteTransfer`. -/
def prepareI2cWriteTransfer (c : CookieId) (data : List UInt8) (s : Interface) : Interface :=
  setWriteData c data (prepareI2cGenericTransfer c .write s)

/-- `sendMessage` up to the semaphore: it returns, or goes on with a cookie. -/
def prepareSend (cookie : Option CookieId) (sendData : Option (List UInt8)) (o : CallOutcome)
    (s : Interface) : Except (Option Code) CookieId × Interface :=
  match checkI2cDriver o s with
  | (some result, s') => (.error (some result), s')
  | (none, s') =>
    match sendData with
    | none => (.error (some .returnFailed), s')
    -- no data: no transfer, and no error
    | some [] => (.error none, s')
    | some (byte :: rest) =>
      match cookie with
      | none => (.error (some .returnFailed), s')
      | some c =>
        if (s'.cookies c).i2cComType = .consecutiveWriteRead then
          match prepareI2cConsecutiveTransfer c (byte :: rest) s' with
          | (some result, s'') => (.error (some result), s'')
          | (none, s'') => (.ok c, s'')
        else (.ok c, prepareI2cWriteTransfer c (byte :: rest) s')

/-- `sendMessage` from the semaphore on. A semaphore that is blocked for the fourth time is released, and
    the transfer is queued without it. -/
def startSend (c : CookieId) (o : CallOutcome) (s : Interface) : Option Code × Interface :=
  let s := run Interface.driverStep o.waiting s
  match s.guards.acquire c with
  | some guards => queueTransfer c true o { s with guards := guards }
  | none =>
    if (s.cookies c).semaphResetCounter = semaphResetTrigger then
      queueTransfer c true o
        { s.setCookie c fun cookie => { cookie with semaphResetCounter := 1 } with
          guards := s.guards.release c }
    else
      (some .i2cWriteSemaphoreBlocked,
        s.setCookie c fun cookie =>
          { cookie with semaphResetCounter := cookie.semaphResetCounter + 1 })

/-- `sendMessage`. -/
def sendMessage (cookie : Option CookieId) (sendData : Option (List UInt8)) (o : CallOutcome)
    (s : Interface) : Option Code × Interface :=
  match prepareSend cookie sendData o s with
  | (.error result, s') => (result, s')
  | (.ok c, s') => startSend c o s'

/-- The switch over the status in `getSendSuccess` and `requestReceiveMessage`. `none` is
    `done_i2c`. -/
def transferError : TransferStatus → Option Code
  | .done => none
  | .pending => some .i2cTransferPending
  | .readError => some .i2cReadError
  | .writeError => some .i2cWriteError
  | .error => some .i2cTransferGeneralError
  | .timeoutError => some .i2cTransferTimeoutError
  | .writeDone => some .protocolError
  | .writeDoneReadStarted => some .protocolError

/-- `getSendSuccess`. -/
def getSendSuccess (cookie : Option CookieId) (s : Interface) : Option Code :=
  match cookie with
  | none => some .returnFailed
  | some c => transferError (s.cookies c).i2cTransferStatus

/-! ## Requesting and reading -/

/-- `prepareI2cReadTransfer`. -/
def prepareI2cReadTransfer (c : CookieId) (requestLen : Nat) (s : Interface) :
    Option Code × Interface :=
  let s' := prepareI2cGenericTransfer c .read s
  match s.i2cVectorMap (s.cookies c).logicalAddress with
  | none => (some .i2cAddressNotInReceiveMap, s')
  | some size =>
    if (s.cookies c).i2cTransferStruct.readSize > size then (some .i2cRxBufferTooSmall, s')
    else (none, setReceiveDataSize c requestLen s')

/-- `requestReceiveMessage` up to the semaphore of `requestReply`. -/
def prepareRequest (cookie : Option CookieId) (requestLen : Nat) (s : Interface) :
    Except (Option Code) CookieId × Interface :=
  match cookie with
  | none => (.error (some .returnFailed), s)
  | some c =>
    let s' := setReceiveDataSize c requestLen s
    if requestLen = 0 ∨ (s.cookies c).i2cComType = .consecutiveWriteRead then (.error none, s')
    else
      match transferError (s.cookies c).i2cTransferStatus with
      | some result => (.error (some result), s')
      | none =>
        match prepareI2cReadTransfer c requestLen s' with
        | (some result, s'') => (.error (some result), s'')
        | (none, s'') => (.ok c, s'')

/-- `requestReply` from the semaphore on. -/
def startRequest (c : CookieId) (o : CallOutcome) (s : Interface) : Option Code × Interface :=
  let s := run Interface.driverStep o.waiting s
  match s.guards.acquire c with
  | none => (some .semaphoreTimeout, s)
  | some guards => queueTransfer c false o { s with guards := guards }

/-- `requestReceiveMessage`. -/
def requestReceiveMessage (cookie : Option CookieId) (requestLen : Nat) (o : CallOutcome)
    (s : Interface) : Option Code × Interface :=
  match prepareRequest cookie requestLen s with
  | (.error result, s') => (result, s')
  | (.ok c, s') => startRequest c o s'

/-- `assignReply`, with the size it puts out. The semaphore is taken and given back. -/
def assignReply (c : CookieId) (o : CallOutcome) (s : Interface) :
    Option Code × Option Nat × Interface :=
  let s := run Interface.driverStep o.waiting s
  match s.guards.acquire c with
  | none => (some .semaphoreTimeout, none, s)
  | some guards =>
    (none, some (s.cookies c).i2cTransferStruct.readSize,
      setReceiveDataSize c 0 { s with guards := guards.release c })

/-- `readReceivedMessage`. -/
def readReceivedMessage (cookie : Option CookieId) (o : CallOutcome) (s : Interface) :
    Option Code × Option Nat × Interface :=
  match cookie with
  | none => (some .returnFailed, none, s)
  | some c =>
    match (s.cookies c).i2cTransferStatus with
    | .done => assignReply c o s
    | .writeDone => (some .noReplyReceived, none, s)
    | .pending => (some .noReplyReceived, none, s)
    | .writeDoneReadStarted => (some .noReplyReceived, none, s)
    | .writeError => (some .i2cWriteError, none, s)
    | .readError => (some .i2cReadError, none, s)
    | .error => (some .i2cTransferGeneralError, none, s)
    | .timeoutError => (some .i2cTransferTimeoutError, none, s)

/-! ## Runs -/

/-- A step of the driver, a call of a device handler, or a restart of the bus with the transfers the
    driver gives up. -/
inductive Event where
  | driver (e : DriverEvent)
  | sendMessage (cookie : Option CookieId) (sendData : Option (List UInt8)) (o : CallOutcome)
  | requestReceiveMessage (cookie : Option CookieId) (requestLen : Nat) (o : CallOutcome)
  | readReceivedMessage (cookie : Option CookieId) (o : CallOutcome)
  | restartBus (dropped : List CookieId)

def Interface.step : Event → Interface → Interface
  | .driver e, s => s.driverStep e
  | .sendMessage cookie sendData o, s => (I2c.sendMessage cookie sendData o s).2
  | .requestReceiveMessage cookie requestLen o, s =>
    (I2c.requestReceiveMessage cookie requestLen o s).2
  | .readReceivedMessage cookie o, s => (I2c.readReceivedMessage cookie o s).2.2
  | .restartBus dropped, s => s.restartBus dropped

/-- The interface at startup, for cookies with these addresses and types. -/
def Interface.initial (logicalAddress : CookieId → Nat)
    (i2cComType : CookieId → I2cCommunicationType) (i2cVectorMap : Nat → Option Nat) :
    Interface where
  cookies := fun c => ⟨logicalAddress c, i2cComType c, .done, ⟨0, .write, [], 0, c⟩, false, 0⟩
  i2cVectorMap := i2cVectorMap
  busCheckCounter := 1
  guards := .free

/-- The semaphore of each cookie is taken exactly while a transfer of the cookie is in flight, whatever
    the transfers of others do. -/
def Interface.Guarded (s : Interface) : Prop :=
  ∀ c, s.guards.taken c = true ↔ c ∈ s.guards.inFlight

/-- A restart gives up no transfer that is in flight. -/
def Interface.KeepsTransfers (dropped : List CookieId) (s : Interface) : Prop :=
  ∀ c ∈ dropped, c ∉ s.guards.inFlight

/-- Where a call finds the semaphore free, the driver takes its transfer. -/
def Interface.QueuesIfFree (c : CookieId) (o : CallOutcome) (s : Interface) : Prop :=
  (run driverStep o.waiting s).guards.taken c = false → o.queueTransfer = 0

/-- Where a call finds the semaphore taken, it does not release it. -/
def Interface.StaysBlocked (c : CookieId) (o : CallOutcome) (s : Interface) : Prop :=
  (run driverStep o.waiting s).guards.taken c = true →
    ((run driverStep o.waiting s).cookies c).semaphResetCounter ≠ semaphResetTrigger

/-- A restart drops no transfer, the driver refuses no transfer behind a semaphore that was taken for it,
    and no send is blocked once too often. -/
def EventGood (e : Event) (s : Interface) : Prop :=
  match e with
  | .driver _ => True
  | .sendMessage cookie sendData o =>
    (s.busCheckCounter + 1 = busCheckTrigger → o.driverError = true → s.KeepsTransfers o.dropped) ∧
      match prepareSend cookie sendData o s with
      | (.error _, _) => True
      | (.ok c, s') => s'.QueuesIfFree c o ∧ s'.StaysBlocked c o
  | .requestReceiveMessage cookie requestLen o =>
    match prepareRequest cookie requestLen s with
    | (.error _, _) => True
    | (.ok c, s') => s'.QueuesIfFree c o
  | .readReceivedMessage _ _ => True
  | .restartBus dropped => s.KeepsTransfers dropped

/-! ## What the parts of a call do to the semaphores -/

section Parts

variable {c : CookieId} {o : CallOutcome} {s : Interface}

@[simp] theorem guards_setCookie (c : CookieId) (f : Cookie → Cookie) (s : Interface) :
    (s.setCookie c f).guards = s.guards := rfl

theorem paired_driverStep {e : DriverEvent} (h : s.guards.Paired) :
    (s.driverStep e).guards.Paired := by
  cases e with
  | setStatus c status =>
      rw [Interface.driverStep]
      split
      · exact h
      · exact h
  | callback c =>
      rw [Interface.driverStep]
      split
      · exact h.land c
      · exact h

theorem paired_waiting (waiting : List DriverEvent) (h : s.guards.Paired) :
    (run Interface.driverStep waiting s).guards.Paired :=
  run_invariant (I := fun s : Interface => s.guards.Paired) (fun _ _ h _ => paired_driverStep h)
    waiting s h (alongRun_true waiting s)

theorem paired_checkI2cDriver (h : s.guards.Paired)
    (hkeeps : s.busCheckCounter + 1 = busCheckTrigger → o.driverError = true →
      s.KeepsTransfers o.dropped) : (checkI2cDriver o s).2.guards.Paired := by
  unfold checkI2cDriver
  dsimp only
  split
  · rename_i htrigger
    split
    · rename_i herror
      exact h.drop (hkeeps htrigger herror)
    · exact h
  · exact h

theorem guards_prepareI2cConsecutiveTransfer (c : CookieId) (data : List UInt8) (s : Interface) :
    (prepareI2cConsecutiveTransfer c data s).2.guards = s.guards := by
  unfold prepareI2cConsecutiveTransfer
  dsimp only
  split <;> rfl

/-- The preparation of a send touches the semaphores only in a restart. -/
theorem guards_prepareSend (cookie : Option CookieId) (sendData : Option (List UInt8))
    (o : CallOutcome) (s : Interface) :
    (prepareSend cookie sendData o s).2.guards = (checkI2cDriver o s).2.guards := by
  unfold prepareSend
  split
  · rename_i heq
    rw [heq]
  · rename_i heq
    rw [heq]
    split
    · rfl
    · rfl
    · split
      · rfl
      · split
        · split
          · rename_i heq'
            exact (congrArg (fun p => p.2.guards) heq').symm.trans
              (guards_prepareI2cConsecutiveTransfer _ _ _)
          · rename_i heq'
            exact (congrArg (fun p => p.2.guards) heq').symm.trans
              (guards_prepareI2cConsecutiveTransfer _ _ _)
        · rfl

theorem guards_prepareI2cReadTransfer (c : CookieId) (requestLen : Nat) (s : Interface) :
    (prepareI2cReadTransfer c requestLen s).2.guards = s.guards := by
  unfold prepareI2cReadTransfer
  dsimp only
  split
  · rfl
  · split <;> rfl

theorem guards_prepareRequest (cookie : Option CookieId) (requestLen : Nat) (s : Interface) :
    (prepareRequest cookie requestLen s).2.guards = s.guards := by
  unfold prepareRequest
  split
  · rfl
  · dsimp only
    split
    · rfl
    · split
      · rfl
      · split
        · rename_i heq
          exact (congrArg (fun p => p.2.guards) heq).symm.trans
            (guards_prepareI2cReadTransfer _ _ _)
        · rename_i heq
          exact (congrArg (fun p => p.2.guards) heq).symm.trans
            (guards_prepareI2cReadTransfer _ _ _)

theorem guards_queueTransfer (c : CookieId) (isSendRequest : Bool) (o : CallOutcome)
    (s : Interface) :
    (queueTransfer c isSendRequest o s).2.guards =
      if o.queueTransfer = 0 then s.guards.launch c else s.guards := by
  have hhandle : ∀ s : Interface,
      (handleI2cTransferInitResult c o.queueTransfer isSendRequest s).2.guards = s.guards := by
    intro s
    unfold handleI2cTransferInitResult
    split
    · rfl
    · split
      · rfl
      · split <;> rfl
  unfold queueTransfer
  dsimp only
  rw [hhandle]
  split <;> rfl

/-- A transfer that is queued under a semaphore that was free is guarded by it. -/
theorem paired_queueTransfer {guards : Guards CookieId} {isSendRequest : Bool}
    (h : s.guards.Paired) (hacquire : s.guards.acquire c = some guards)
    (hqueue : o.queueTransfer = 0) :
    (queueTransfer c isSendRequest o { s with guards := guards }).2.guards.Paired := by
  rw [guards_queueTransfer, if_pos hqueue]
  exact h.launch hacquire

theorem paired_startSend (h : s.guards.Paired) (hqueue : s.QueuesIfFree c o)
    (hblocked : s.StaysBlocked c o) : (startSend c o s).2.guards.Paired := by
  have hwaited := paired_waiting o.waiting h
  unfold startSend
  dsimp only
  split
  · rename_i guards hacquire
    exact paired_queueTransfer hwaited hacquire (hqueue (Guards.acquire_eq_some hacquire).1)
  · rename_i hacquire
    rw [if_neg (hblocked (Guards.acquire_eq_none.mp hacquire))]
    exact hwaited

theorem paired_startRequest (h : s.guards.Paired) (hqueue : s.QueuesIfFree c o) :
    (startRequest c o s).2.guards.Paired := by
  have hwaited := paired_waiting o.waiting h
  unfold startRequest
  dsimp only
  split
  · exact hwaited
  · rename_i guards hacquire
    exact paired_queueTransfer hwaited hacquire (hqueue (Guards.acquire_eq_some hacquire).1)

/-- The semaphore is given back as it was taken. -/
theorem paired_assignReply (c : CookieId) (o : CallOutcome) (h : s.guards.Paired) :
    (assignReply c o s).2.2.guards.Paired := by
  have hwaited := paired_waiting o.waiting h
  unfold assignReply
  dsimp only
  split
  · exact hwaited
  · rename_i guards hacquire
    change (guards.release c).Paired
    rw [Guards.release_of_acquire hacquire]
    exact hwaited

theorem paired_readReceivedMessage (cookie : Option CookieId) (o : CallOutcome)
    (h : s.guards.Paired) : (readReceivedMessage cookie o s).2.2.guards.Paired := by
  unfold readReceivedMessage
  split
  · exact h
  · split
    · exact paired_assignReply _ o h
    all_goals exact h

end Parts

/-- Each step keeps the semaphores and the transfers together. -/
theorem paired_step (e : Event) (s : Interface) (h : s.guards.Paired) (hgood : EventGood e s) :
    (s.step e).guards.Paired := by
  cases e with
  | driver e => exact paired_driverStep h
  | sendMessage cookie sendData o =>
      obtain ⟨hkeeps, hstart⟩ := hgood
      have hprepared : (prepareSend cookie sendData o s).2.guards.Paired := by
        rw [guards_prepareSend]
        exact paired_checkI2cDriver h hkeeps
      rw [Interface.step, sendMessage]
      split
      · rename_i heq
        rwa [heq] at hprepared
      · rename_i c s' heq
        rw [heq] at hprepared hstart
        obtain ⟨hqueue, hblocked⟩ := hstart
        exact paired_startSend hprepared hqueue hblocked
  | requestReceiveMessage cookie requestLen o =>
      rw [EventGood] at hgood
      have hprepared : (prepareRequest cookie requestLen s).2.guards.Paired := by
        rw [guards_prepareRequest]
        exact h
      rw [Interface.step, requestReceiveMessage]
      split
      · rename_i heq
        rwa [heq] at hprepared
      · rename_i c s' heq
        rw [heq] at hprepared hgood
        exact paired_startRequest hprepared hgood
  | readReceivedMessage cookie o => exact paired_readReceivedMessage cookie o h
  | restartBus dropped => exact h.drop hgood

/-- In every run of good steps the semaphores and the transfers stay together. -/
theorem guarded_of_run {logicalAddress : CookieId → Nat} {i2cComType : CookieId → I2cCommunicationType}
    {i2cVectorMap : Nat → Option Nat} {events reached : List Event}
    (hgood : AlongRun EventGood Interface.step events
      (.initial logicalAddress i2cComType i2cVectorMap)) (hreached : reached <+: events) :
    (run Interface.step reached (.initial logicalAddress i2cComType i2cVectorMap)).Guarded := by
  obtain ⟨rest, rfl⟩ := hreached
  have hpaired : (run Interface.step reached
      (.initial logicalAddress i2cComType i2cVectorMap)).guards.Paired :=
    run_invariant (I := fun s : Interface => s.guards.Paired) paired_step reached _
      Guards.paired_free (alongRun_append.mp hgood).1
  exact hpaired.taken_iff

/-- **The semaphores of the bus.** In every run in which the driver refuses no transfer behind its
    semaphore, no send is blocked once too often and no restart drops a transfer, a semaphore is taken
    exactly while a transfer of its cookie is in flight, and released only when that transfer ends. -/
theorem run_guarded (logicalAddress : CookieId → Nat) (i2cComType : CookieId → I2cCommunicationType)
    (i2cVectorMap : Nat → Option Nat) (events : List Event)
    (hgood : AlongRun EventGood Interface.step events
      (.initial logicalAddress i2cComType i2cVectorMap)) :
    (∀ reached, reached <+: events →
      (run Interface.step reached (.initial logicalAddress i2cComType i2cVectorMap)).Guarded) ∧
    ∀ reached e c, reached ++ [e] <+: events →
      let s := run Interface.step reached (.initial logicalAddress i2cComType i2cVectorMap)
      s.guards.taken c = true → (s.step e).guards.taken c = false →
        c ∈ s.guards.inFlight ∧ c ∉ (s.step e).guards.inFlight := by
  refine ⟨fun reached => guarded_of_run hgood, fun reached e c hreached => ?_⟩
  intro s htaken hfree
  have hbefore : s.Guarded := guarded_of_run hgood ((List.prefix_append _ _).trans hreached)
  have hbehind := guarded_of_run hgood hreached
  rw [run_append, run_cons, run_nil] at hbehind
  refine ⟨(hbefore c).mp htaken, fun hflight => ?_⟩
  have htaken' : (s.step e).guards.taken c = true := (hbehind c).mpr hflight
  rw [hfree] at htaken'
  exact Bool.false_ne_true htaken'

/-- A device with two cookies, each with a reply buffer of 8 bytes. -/
def twoCookies : Interface :=
  .initial (fun c => 0x20 + c) (fun _ => .separateWriteRead) (fun _ => some 8)

/-- Nothing happens to the driver while a call waits, and it takes the transfer. -/
def CallOutcome.queued : CallOutcome := ⟨false, [], [], 0⟩

/-- Both cookies send, the second one twice; the first transfer ends, its reply is requested and read. -/
def bothSend : List Event :=
  [.sendMessage (some 0) (some [1]) .queued, .sendMessage (some 1) (some [2]) .queued,
    .sendMessage (some 1) (some [3]) .queued, .driver (.setStatus 0 .done), .driver (.callback 0),
    .requestReceiveMessage (some 0) 4 .queued, .driver (.setStatus 0 .done), .driver (.callback 0),
    .readReceivedMessage (some 0) .queued]

theorem bothSend_guarded :
    AlongRun EventGood Interface.step bothSend twoCookies ∧
      (run Interface.step bothSend twoCookies).Guarded := by
  have hgood : AlongRun EventGood Interface.step bothSend twoCookies := by
    refine ⟨⟨fun _ h => absurd h Bool.false_ne_true, fun _ => rfl, fun _ => by decide⟩,
      ⟨fun _ h => absurd h Bool.false_ne_true, fun _ => rfl, fun _ => by decide⟩,
      ⟨fun _ h => absurd h Bool.false_ne_true, fun _ => rfl, fun _ => by decide⟩, trivial, trivial,
      fun _ => rfl, trivial, trivial, trivial, trivial⟩
  exact ⟨hgood, (run_guarded _ _ _ bothSend hgood).1 bothSend (List.prefix_refl _)⟩

/-- A send whose transfer the driver refuses. -/
def refused : Event := .sendMessage (some 0) (some [1]) ⟨false, [], [], -1⟩

/-- **A transfer that is refused leaves the semaphore taken.** -/
theorem refused_leaves_semaphore :
    (run Interface.step [refused] twoCookies).guards.taken 0 = true ∧
      (run Interface.step [refused] twoCookies).guards.inFlight = [] ∧
      ¬ (run Interface.step [refused] twoCookies).Guarded := by
  refine ⟨rfl, rfl, fun h => ?_⟩
  exact absurd ((h 0).mp rfl) List.not_mem_nil

end I2c
end Obsw
