import Mathlib.Logic.Function.Basic
import Obsw.Lib.Loop

/-!
# `ComIF.Uart` — receiving over the serial lines

Two polling tasks, `RS232PollingTask` on bus 0 and `RS485PollingTask` on bus 2. Each keeps two receptions
queued in the driver, which completes them in order and calls back; the task takes them in turn and
writes what was received into its ring buffer. The driver and the ring buffer are not part of the
repository: whether the driver takes a transfer, and whether the ring buffer takes the bytes, come with
the events.

The callbacks of both tasks ask for the number of bytes that were read on bus 0. Each bus gets its own
bytes in runs whose events satisfy `EventFits` (`buses_served_iff`).
-/

namespace Obsw
namespace Uart

open Loop

inductive UARTbus where
  | bus0_uart
  | bus2_uart
  deriving DecidableEq, Repr

inductive UARTtransferStatus where
  | pending_uart
  | done_uart
  | parityError_uart
  | framingError_uart
  | framingAndParityError_uart
  | overrunError_uart
  | error_uart
  | unknown
  deriving DecidableEq, Repr

/-- The transfers of a task. -/
inductive Transfer where
  | uartTransfer1
  | uartTransfer2
  deriving DecidableEq, Repr

def Transfer.other : Transfer → Transfer
  | .uartTransfer1 => .uartTransfer2
  | .uartTransfer2 => .uartTransfer1

/-! ## The tasks -/

/-- A transfer with its buffer, its semaphore and what its callback has stored. The buffer is the memory
    from its start on. The last field is for the statements: the bytes the transfer received. -/
structure UartTransfer where
  readBuffer : Nat → UInt8
  bytesReceived : Nat
  transferStatus : UARTtransferStatus
  semaphoreFree : Bool
  received : List UInt8

/-- The errors a task has seen since its last event. -/
structure ErrorCounts where
  parityErrorCount : UInt8
  overrunErrorCount : UInt8
  framingErrorCount : UInt8
  otherErrorCount : UInt8
  deriving DecidableEq, Repr

def ErrorCounts.zero : ErrorCounts := ⟨0, 0, 0, 0⟩

/-- A polling task and its bus. `queue` holds the transfers the driver has, `prevBytesRead` is the length
    of the reception it completed last, and `errorEvents` holds the parameters of the events. The ring
    buffer holds all bytes that were ever written. The last field is for the statements: the receptions
    that did not fail. -/
structure UartTask where
  transfers : Transfer → UartTransfer
  queue : List Transfer
  prevBytesRead : Nat
  /-- the transfer whose semaphore the task waits for -/
  waitsFor : Transfer
  counts : ErrorCounts
  lastError : UInt16
  eventReportingEnabled : Bool
  errorEvents : List (UInt32 × UInt32)
  ringBuffer : List UInt8
  receptions : List (List UInt8)

/-- `handleTransferResult`, which says whether the bytes are to be written. -/
def handleTransferResult (c : ErrorCounts) : UARTtransferStatus → Bool × ErrorCounts
  | .done_uart => (true, c)
  | .pending_uart => (true, c)
  | .parityError_uart => (false, { c with parityErrorCount := c.parityErrorCount + 1 })
  | .framingError_uart => (false, { c with framingErrorCount := c.framingErrorCount + 1 })
  | .framingAndParityError_uart =>
    (false, { c with
      framingErrorCount := c.framingErrorCount + 1
      parityErrorCount := c.parityErrorCount + 1 })
  | .overrunError_uart => (false, { c with overrunErrorCount := c.overrunErrorCount + 1 })
  | .error_uart => (false, { c with otherErrorCount := c.otherErrorCount + 1 })
  | .unknown => (false, c)

namespace UartTask

def countOtherError (u : UartTask) : UartTask :=
  { u with counts := { u.counts with otherErrorCount := u.counts.otherErrorCount + 1 } }

/-- A mutex that was not locked is counted, and the task goes on. -/
def lockRingBufferMutex (mutexError : Option UInt16) (u : UartTask) : UartTask :=
  match mutexError with
  | none => u
  | some error => { u.countOtherError with lastError := error }

/-- `handleTransferCompletion`. The result of `writeData` is not looked at: `accepted` says whether the
    ring buffer took the bytes. -/
def handleTransferCompletion (t : Transfer) (mutexError : Option UInt16) (accepted : Bool) (u : UartTask) :
    UartTask :=
  let u₁ := u.lockRingBufferMutex mutexError
  let result := handleTransferResult u₁.counts (u₁.transfers t).transferStatus
  let u₂ := { u₁ with counts := result.2 }
  if result.1 then
    { u₂ with
      ringBuffer :=
        if accepted then
          u₂.ringBuffer ++ (List.range (u₂.transfers t).bytesReceived).map (u₂.transfers t).readBuffer
        else u₂.ringBuffer
      transfers := Function.update u₂.transfers t { u₂.transfers t with bytesReceived := 0 } }
  else u₂

/-- `UART_queueTransfer` and the count of its failures. -/
def queueTransfer (t : Transfer) (queued : Bool) (u : UartTask) : UartTask :=
  if queued then { u with queue := u.queue ++ [t] } else u.countOtherError

def generateErrorEventResetCounters (u : UartTask) : UartTask :=
  let parameter1 := (u.counts.parityErrorCount.toUInt32 <<< 24) +
    (u.counts.overrunErrorCount.toUInt32 <<< 16) + (u.counts.framingErrorCount.toUInt32 <<< 8) +
    u.counts.otherErrorCount.toUInt32
  { u with
    errorEvents :=
      if u.eventReportingEnabled then u.errorEvents ++ [(parameter1, u.lastError.toUInt32)]
      else u.errorEvents
    counts := .zero }

/-- The end of a round: an event, if there were errors. -/
def reportErrors (u : UartTask) : UartTask :=
  if u.counts ≠ .zero then u.generateErrorEventResetCounters else u

/-- Half of a round of `pollUart`: nothing happens until the semaphore is there. The second half ends the
    round. -/
def pollUart (mutexError : Option UInt16) (accepted queued : Bool) (u : UartTask) : UartTask :=
  if (u.transfers u.waitsFor).semaphoreFree then
    let u₁ := { u with
      transfers := Function.update u.transfers u.waitsFor
        { u.transfers u.waitsFor with semaphoreFree := false } }
    let u₂ := (u₁.handleTransferCompletion u.waitsFor mutexError accepted).queueTransfer u.waitsFor queued
    match u.waitsFor with
    | .uartTransfer1 => { u₂ with waitsFor := .uartTransfer2 }
    | .uartTransfer2 => { u₂.reportErrors with waitsFor := .uartTransfer1 }
  else u

end UartTask

/-! ## Receptions -/

/-- Both buses. -/
abbrev State := UARTbus → UartTask

/-- The statuses of a transfer that went wrong. -/
def UARTtransferStatus.failed : UARTtransferStatus → Bool
  | .pending_uart | .done_uart => false
  | _ => true

/-- The driver completes a transfer: the bytes are in its buffer, the status is stored, and the length
    can be asked for. -/
def UartTask.complete (t : Transfer) (queue : List Transfer) (bytes : List UInt8)
    (status : UARTtransferStatus) (u : UartTask) : UartTask :=
  { u with
    transfers := Function.update u.transfers t
      { u.transfers t with
        readBuffer := fun i => bytes.getD i ((u.transfers t).readBuffer i)
        transferStatus := status
        received := bytes }
    queue := queue
    prevBytesRead := bytes.length
    receptions := if status.failed then u.receptions else u.receptions ++ [bytes] }

/-- The callback has stored a length and given the semaphore. -/
def UartTask.calledBack (t : Transfer) (length : Nat) (u : UartTask) : UartTask :=
  { u with
    transfers := Function.update u.transfers t
      { u.transfers t with bytesReceived := length, semaphoreFree := true } }

/-- A callback that takes the length from the bus `source`. -/
def uartCallback (source bus : UARTbus) (t : Transfer) (s : State) : State :=
  Function.update s bus ((s bus).calledBack t (s source).prevBytesRead)

/-- `uart1Callback` and `uart2Callback` of `RS232PollingTask`. -/
def rs232Callback : Transfer → State → State := uartCallback .bus0_uart .bus0_uart

/-- `uart1Callback` and `uart2Callback` of `RS485PollingTask`. -/
def rs485Callback : Transfer → State → State := uartCallback .bus0_uart .bus2_uart

def callback : UARTbus → Transfer → State → State
  | .bus0_uart => rs232Callback
  | .bus2_uart => rs485Callback

inductive Event where
  | received (bus : UARTbus) (bytes : List UInt8) (status : UARTtransferStatus)
  | poll (bus : UARTbus) (mutexError : Option UInt16) (accepted queued : Bool)

/-- The driver completes the transfer that was queued first. -/
def receive (bus : UARTbus) (bytes : List UInt8) (status : UARTtransferStatus) (s : State) : State :=
  match (s bus).queue with
  | [] => s
  | t :: queue => callback bus t (Function.update s bus ((s bus).complete t queue bytes status))

def step : Event → State → State
  | .received bus bytes status, s => receive bus bytes status s
  | .poll bus mutexError accepted queued, s =>
    Function.update s bus ((s bus).pollUart mutexError accepted queued)

/-- Behind `initiateUartTransfers`, which takes both semaphores. `queued` says which transfers the driver
    took. -/
def UartTask.initial (queued : Transfer → Bool) : UartTask where
  transfers := fun _ => ⟨fun _ => 0, 0, .done_uart, false, []⟩
  queue := [Transfer.uartTransfer1, .uartTransfer2].filter queued
  prevBytesRead := 0
  waitsFor := .uartTransfer1
  counts := .zero
  lastError := 0
  eventReportingEnabled := true
  errorEvents := []
  ringBuffer := []
  receptions := []

def initial (queued : UARTbus → Transfer → Bool) : State := fun bus => .initial (queued bus)

/-! ## What is promised -/

/-- The transfer has received bytes that are still to be written. -/
def UartTransfer.holds (x : UartTransfer) : Bool := x.semaphoreFree && !x.transferStatus.failed

def UartTransfer.toWrite (x : UartTransfer) : List UInt8 := if x.holds then x.received else []

namespace UartTask

/-- What is still to be written, in the order of the task. -/
def toWrite (u : UartTask) : List UInt8 :=
  (u.transfers u.waitsFor).toWrite ++ (u.transfers u.waitsFor.other).toWrite

/-- What was written and what is still to be written are the bytes of the receptions that did not fail.
    What is still to be written has its own length, and the task does not wait for anything else. -/
structure Served (u : UartTask) : Prop where
  written : u.ringBuffer ++ u.toWrite = u.receptions.flatten
  length : ∀ t, (u.transfers t).holds = true →
    (u.transfers t).bytesReceived = (u.transfers t).received.length
  comes : ∀ t, (u.transfers t).holds = true → (u.transfers t).received ≠ [] →
    (u.transfers u.waitsFor).semaphoreFree = true

end UartTask

/-- A reception that does not fail has, on bus 2, the length of the last reception on bus 0. If there are
    bytes in it, the task waits for this transfer, or need not wait. Bytes that are to be written find
    room. -/
def EventFits (e : Event) (s : State) : Prop :=
  match e with
  | .received bus bytes status =>
    ∀ t, (s bus).queue.head? = some t → status.failed = false →
      (bus = .bus2_uart → bytes.length = (s .bus0_uart).prevBytesRead) ∧
        (bytes ≠ [] → (s bus).waitsFor = t ∨ ((s bus).transfers (s bus).waitsFor).semaphoreFree = true)
  | .poll bus _ accepted _ =>
    ((s bus).transfers (s bus).waitsFor).holds = true →
      ((s bus).transfers (s bus).waitsFor).received ≠ [] → accepted = true

/-! ## One task -/

section Task

variable {u : UartTask}

theorem Transfer.other_ne (t : Transfer) : t.other ≠ t := by cases t <;> decide

theorem Transfer.eq_or_other (t t' : Transfer) : t' = t ∨ t' = t.other := by
  cases t <;> cases t' <;> decide

theorem Transfer.other_other (t : Transfer) : t.other.other = t := by cases t <;> rfl

/-- The code writes the bytes of exactly those transfers that did not fail. -/
theorem handleTransferResult_fst (c : ErrorCounts) (status : UARTtransferStatus) :
    (handleTransferResult c status).1 = !status.failed := by
  cases status <;> rfl

/-- The transfer the task waits for is the first in the queue, if it is there at all. A buffer whose
    semaphore was given holds what was received. -/
structure UartTask.Ordered (u : UartTask) : Prop where
  queue : ((u.queue = [u.waitsFor] ∨ u.queue = [u.waitsFor, u.waitsFor.other]) ∧
      (u.transfers u.waitsFor).semaphoreFree = false ∧
      (u.transfers u.waitsFor.other).semaphoreFree = false) ∨
    (u.queue = [u.waitsFor.other] ∧ (u.transfers u.waitsFor.other).semaphoreFree = false) ∨
    u.queue = []
  content : ∀ t, (u.transfers t).semaphoreFree = true →
    (List.range (u.transfers t).received.length).map (u.transfers t).readBuffer = (u.transfers t).received

theorem lockRingBufferMutex_eq (mutexError : Option UInt16) (u : UartTask) :
    ∃ counts lastError, u.lockRingBufferMutex mutexError =
      { u with counts := counts, lastError := lastError } := by
  cases mutexError <;> exact ⟨_, _, rfl⟩

theorem handleTransferCompletion_eq (t : Transfer) (mutexError : Option UInt16) (accepted : Bool)
    (u : UartTask) :
    ∃ bytesReceived counts lastError, u.handleTransferCompletion t mutexError accepted = { u with
      transfers := Function.update u.transfers t { u.transfers t with bytesReceived := bytesReceived }
      counts := counts
      lastError := lastError
      ringBuffer := u.ringBuffer ++
        if (u.transfers t).transferStatus.failed = false ∧ accepted = true then
          (List.range (u.transfers t).bytesReceived).map (u.transfers t).readBuffer
        else [] } := by
  obtain ⟨counts, lastError, hlock⟩ := lockRingBufferMutex_eq mutexError u
  unfold UartTask.handleTransferCompletion
  rw [hlock]
  dsimp only
  rw [handleTransferResult_fst]
  generalize (handleTransferResult counts (u.transfers t).transferStatus).2 = counts'
  cases hfailed : (u.transfers t).transferStatus.failed with
  | true =>
      refine ⟨(u.transfers t).bytesReceived, counts', lastError, ?_⟩
      rw [if_neg (by decide), if_neg (fun h => Bool.noConfusion h.1), List.append_nil,
        Function.update_eq_self]
  | false =>
      refine ⟨0, counts', lastError, ?_⟩
      rw [if_pos (by decide)]
      cases accepted with
      | true => rw [if_pos rfl, if_pos ⟨rfl, rfl⟩]
      | false => rw [if_neg Bool.false_ne_true, if_neg (fun h => Bool.noConfusion h.2), List.append_nil]

theorem queueTransfer_eq (t : Transfer) (queued : Bool) (u : UartTask) :
    ∃ counts, u.queueTransfer t queued =
      { u with queue := u.queue ++ (if queued then [t] else []), counts := counts } := by
  unfold UartTask.queueTransfer
  cases queued with
  | true => exact ⟨_, rfl⟩
  | false =>
      refine ⟨u.countOtherError.counts, ?_⟩
      rw [if_neg Bool.false_ne_true, if_neg Bool.false_ne_true, List.append_nil]
      rfl

theorem reportErrors_eq (u : UartTask) :
    ∃ counts errorEvents, u.reportErrors = { u with counts := counts, errorEvents := errorEvents } := by
  unfold UartTask.reportErrors
  split <;> exact ⟨_, _, rfl⟩

/-- What half a round does once the semaphore is there. -/
theorem pollUart_of_free (mutexError : Option UInt16) (accepted queued : Bool)
    (hfree : (u.transfers u.waitsFor).semaphoreFree = true) :
    ∃ bytesReceived counts lastError errorEvents, u.pollUart mutexError accepted queued = { u with
      transfers := Function.update u.transfers u.waitsFor
        { u.transfers u.waitsFor with semaphoreFree := false, bytesReceived := bytesReceived }
      waitsFor := u.waitsFor.other
      queue := u.queue ++ (if queued then [u.waitsFor] else [])
      counts := counts
      lastError := lastError
      errorEvents := errorEvents
      ringBuffer := u.ringBuffer ++
        if (u.transfers u.waitsFor).transferStatus.failed = false ∧ accepted = true then
          (List.range (u.transfers u.waitsFor).bytesReceived).map (u.transfers u.waitsFor).readBuffer
        else [] } := by
  unfold UartTask.pollUart
  rw [if_pos hfree]
  dsimp only
  obtain ⟨bytesReceived, counts, lastError, hcompletion⟩ := handleTransferCompletion_eq u.waitsFor mutexError
    accepted { u with
      transfers := Function.update u.transfers u.waitsFor
        { u.transfers u.waitsFor with semaphoreFree := false } }
  simp only [Function.update_idem, Function.update_self] at hcompletion
  rw [hcompletion]
  obtain ⟨counts', hqueue⟩ := queueTransfer_eq u.waitsFor queued _
  rw [hqueue]
  cases hwaits : u.waitsFor with
  | uartTransfer1 => exact ⟨_, _, _, _, rfl⟩
  | uartTransfer2 =>
      obtain ⟨counts'', errorEvents, hreport⟩ := reportErrors_eq _
      rw [hreport]
      exact ⟨_, _, _, _, rfl⟩

/-- A poll that finds no semaphore does nothing. -/
theorem pollUart_of_taken (mutexError : Option UInt16) (accepted queued : Bool)
    (htaken : ¬ (u.transfers u.waitsFor).semaphoreFree = true) :
    u.pollUart mutexError accepted queued = u :=
  if_neg htaken

theorem ordered_pollUart (h : u.Ordered) (mutexError : Option UInt16) (accepted queued : Bool) :
    (u.pollUart mutexError accepted queued).Ordered := by
  by_cases hfree : (u.transfers u.waitsFor).semaphoreFree = true
  case neg => rwa [pollUart_of_taken mutexError accepted queued hfree]
  case pos =>
      obtain ⟨bytesReceived, counts, lastError, errorEvents, hpoll⟩ :=
        pollUart_of_free mutexError accepted queued hfree
      rw [hpoll]
      have hself : ∀ x, Function.update u.transfers u.waitsFor x u.waitsFor.other.other = x := by
        intro x
        rw [Transfer.other_other, Function.update_self]
      have hother : ∀ x, Function.update u.transfers u.waitsFor x u.waitsFor.other =
          u.transfers u.waitsFor.other := fun x => Function.update_of_ne (Transfer.other_ne _) _ _
      constructor
      · dsimp only
        rw [hself, hother]
        rcases h.queue with ⟨-, hfalse, -⟩ | ⟨hqueue, hother⟩ | hqueue
        · rw [hfree] at hfalse
          cases hfalse
        · rw [hqueue]
          cases queued with
          | true => exact Or.inl ⟨Or.inr (by rw [Transfer.other_other]; rfl), hother, rfl⟩
          | false => exact Or.inl ⟨Or.inl rfl, hother, rfl⟩
        · rw [hqueue]
          cases queued with
          | true => exact Or.inr (Or.inl ⟨by rw [Transfer.other_other]; rfl, rfl⟩)
          | false => exact Or.inr (Or.inr rfl)
      · intro t ht
        dsimp only at ht ⊢
        rcases u.waitsFor.eq_or_other t with rfl | rfl
        · rw [Function.update_self] at ht
          cases ht
        · rw [hother] at ht ⊢
          exact h.content _ ht

/-- What half a round writes, where the length is right. -/
theorem written_eq (h : u.Ordered) (hserved : u.Served)
    (hfree : (u.transfers u.waitsFor).semaphoreFree = true) (accepted : Bool) :
    (if (u.transfers u.waitsFor).transferStatus.failed = false ∧ accepted = true then
        (List.range (u.transfers u.waitsFor).bytesReceived).map (u.transfers u.waitsFor).readBuffer
      else []) =
      if accepted then (u.transfers u.waitsFor).toWrite else [] := by
  have hholds : (u.transfers u.waitsFor).holds = !(u.transfers u.waitsFor).transferStatus.failed := by
    rw [UartTransfer.holds, hfree, Bool.true_and]
  unfold UartTransfer.toWrite
  cases hfailed : (u.transfers u.waitsFor).transferStatus.failed with
  | true =>
      rw [hfailed, Bool.not_true] at hholds
      rw [if_neg (fun hand => Bool.noConfusion hand.1), hholds, if_neg Bool.false_ne_true, ite_self]
  | false =>
      rw [hfailed, Bool.not_false] at hholds
      rw [hserved.length _ hholds, h.content _ hfree, if_pos hholds]
      simp only [true_and]

theorem toWrite_of_taken {x : UartTransfer} (htaken : x.semaphoreFree = false) : x.toWrite = [] := by
  rw [UartTransfer.toWrite, UartTransfer.holds, htaken, Bool.false_and, if_neg Bool.false_ne_true]

/-- Half a round serves the task exactly if there is room for bytes that are to be written. -/
theorem pollUart_served_iff (h : u.Ordered) (hserved : u.Served) (mutexError : Option UInt16)
    (accepted queued : Bool) :
    (u.pollUart mutexError accepted queued).Served ↔
      ((u.transfers u.waitsFor).holds = true → (u.transfers u.waitsFor).received ≠ [] →
        accepted = true) := by
  by_cases hfree : (u.transfers u.waitsFor).semaphoreFree = true
  case neg =>
      rw [pollUart_of_taken mutexError accepted queued hfree]
      refine iff_of_true hserved fun hholds => absurd (Bool.and_eq_true_iff.mp hholds).1 hfree
  case pos =>
      obtain ⟨bytesReceived, counts, lastError, errorEvents, hpoll⟩ :=
        pollUart_of_free mutexError accepted queued hfree
      rw [hpoll, written_eq h hserved hfree accepted]
      have hother : ∀ x, Function.update u.transfers u.waitsFor x u.waitsFor.other =
          u.transfers u.waitsFor.other := fun x => Function.update_of_ne (Transfer.other_ne _) _ _
      have hrest : ∀ t x, x.semaphoreFree = false →
          (Function.update u.transfers u.waitsFor x t).holds = true → t = u.waitsFor.other := by
        intro t x htaken hholds
        rcases u.waitsFor.eq_or_other t with rfl | rfl
        · rw [Function.update_self, UartTransfer.holds, htaken] at hholds
          cases hholds
        · rfl
      have hself : ∀ n, ({ u.transfers u.waitsFor with
          semaphoreFree := false, bytesReceived := n } : UartTransfer).toWrite = [] :=
        fun _ => toWrite_of_taken rfl
      have hwritten := hserved.written
      unfold UartTask.toWrite at hwritten
      constructor
      · intro hnext hholds hne
        have hnext := hnext.written
        unfold UartTask.toWrite at hnext
        dsimp only at hnext
        rw [Transfer.other_other, hother, Function.update_self, hself, List.append_nil,
          List.append_assoc, ← hwritten] at hnext
        have hwrites := List.append_cancel_right (List.append_cancel_left hnext)
        -- a refused record would be missing from what was written
        by_contra hrefused
        rw [if_neg hrefused, UartTransfer.toWrite, if_pos hholds] at hwrites
        exact hne hwrites.symm
      · intro haccepted
        refine ⟨?_, ?_, ?_⟩
        · unfold UartTask.toWrite
          dsimp only
          rw [Transfer.other_other, hother, Function.update_self, hself, List.append_nil,
            List.append_assoc, ← hwritten]
          have hwrites : (if accepted then (u.transfers u.waitsFor).toWrite else []) =
              (u.transfers u.waitsFor).toWrite := by
            by_cases haccept : accepted = true
            · rw [if_pos haccept]
            · rw [if_neg haccept]
              unfold UartTransfer.toWrite
              split
              · rename_i hholds
                by_contra hne
                exact haccept (haccepted hholds (Ne.symm hne))
              · rfl
          rw [hwrites]
        · intro t ht
          dsimp only at ht ⊢
          obtain rfl := hrest t _ rfl ht
          rw [hother] at ht ⊢
          exact hserved.length _ ht
        · intro t ht hne
          dsimp only at ht hne ⊢
          obtain rfl := hrest t _ rfl ht
          rw [hother] at ht ⊢
          exact (Bool.and_eq_true_iff.mp ht).1

theorem complete_calledBack (t : Transfer) (queue : List Transfer) (bytes : List UInt8)
    (status : UARTtransferStatus) (length : Nat) (u : UartTask) :
    (u.complete t queue bytes status).calledBack t length = { u with
      transfers := Function.update u.transfers t
        { readBuffer := fun i => bytes.getD i ((u.transfers t).readBuffer i)
          bytesReceived := length
          transferStatus := status
          semaphoreFree := true
          received := bytes }
      queue := queue
      prevBytesRead := bytes.length
      receptions := if status.failed then u.receptions else u.receptions ++ [bytes] } := by
  unfold UartTask.calledBack UartTask.complete
  simp only [Function.update_self, Function.update_idem]

theorem map_getD_range (bytes : List UInt8) (behind : Nat → UInt8) :
    (List.range bytes.length).map (fun i => bytes.getD i (behind i)) = bytes := by
  refine List.ext_getElem (by rw [List.length_map, List.length_range]) fun i hi hlt => ?_
  rw [List.getElem_map, List.getElem_range, List.getD_eq_getElem?_getD, List.getElem?_eq_getElem hlt,
    Option.getD_some]

/-- The queue in front of a reception: the task waits for the transfer, or for the other one, which the
    driver does not have. -/
theorem queue_of_cons {t : Transfer} {queue : List Transfer} (h : u.Ordered)
    (hqueue : u.queue = t :: queue) :
    (t = u.waitsFor ∧ (queue = [] ∨ queue = [u.waitsFor.other]) ∧
      (u.transfers u.waitsFor).semaphoreFree = false ∧
      (u.transfers u.waitsFor.other).semaphoreFree = false) ∨
    (t = u.waitsFor.other ∧ queue = [] ∧ (u.transfers u.waitsFor.other).semaphoreFree = false) := by
  rcases h.queue with ⟨hqueues, hwaits, hother⟩ | ⟨hqueue', hother⟩ | hqueue'
  · rcases hqueues with hqueue' | hqueue'
    all_goals obtain ⟨rfl, rfl⟩ := List.cons.inj (hqueue.symm.trans hqueue')
    · exact Or.inl ⟨rfl, Or.inl rfl, hwaits, hother⟩
    · exact Or.inl ⟨rfl, Or.inr rfl, hwaits, hother⟩
  · obtain ⟨rfl, rfl⟩ := List.cons.inj (hqueue.symm.trans hqueue')
    exact Or.inr ⟨rfl, rfl, hother⟩
  · rw [hqueue'] at hqueue
    cases hqueue

theorem ordered_received (h : u.Ordered) {t : Transfer} {queue : List Transfer}
    (hqueue : u.queue = t :: queue) (bytes : List UInt8) (status : UARTtransferStatus) (length : Nat) :
    ((u.complete t queue bytes status).calledBack t length).Ordered := by
  rw [complete_calledBack]
  constructor
  · dsimp only
    rcases queue_of_cons h hqueue with ⟨rfl, rfl | rfl, -, hother⟩ | ⟨-, rfl, -⟩
    · exact Or.inr (Or.inr rfl)
    · rw [Function.update_of_ne (Transfer.other_ne _)]
      exact Or.inr (Or.inl ⟨rfl, hother⟩)
    · exact Or.inr (Or.inr rfl)
  · intro t' ht'
    dsimp only at ht' ⊢
    by_cases heq : t' = t
    · rw [heq, Function.update_self]
      exact map_getD_range bytes _
    · rw [Function.update_of_ne heq] at ht' ⊢
      exact h.content t' ht'

/-- A reception serves the task exactly if it failed, or its own length was stored and bytes in it are
    not waited past. -/
theorem received_served_iff (h : u.Ordered) (hserved : u.Served) {t : Transfer} {queue : List Transfer}
    (hqueue : u.queue = t :: queue) (bytes : List UInt8) (status : UARTtransferStatus) (length : Nat) :
    ((u.complete t queue bytes status).calledBack t length).Served ↔
      (status.failed = false → length = bytes.length ∧
        (bytes ≠ [] → u.waitsFor = t ∨ (u.transfers u.waitsFor).semaphoreFree = true)) := by
  rw [complete_calledBack]
  generalize hx : ({
    readBuffer := fun i => bytes.getD i ((u.transfers t).readBuffer i)
    bytesReceived := length
    transferStatus := status
    semaphoreFree := true
    received := bytes } : UartTransfer) = x
  have hfreed : x.semaphoreFree = true := by rw [← hx]
  have hreceived : x.received = bytes := by rw [← hx]
  have hstored : x.bytesReceived = length := by rw [← hx]
  have hholds : x.holds = !status.failed := by rw [← hx, UartTransfer.holds, Bool.true_and]
  constructor
  · intro hnext hfailed
    rw [hfailed] at hholds
    have hlength := hnext.length t
    have hcomes := hnext.comes t
    dsimp only at hlength hcomes
    rw [Function.update_self, hstored, hreceived] at hlength
    rw [Function.update_self, hreceived] at hcomes
    refine ⟨hlength hholds, fun hne => ?_⟩
    by_cases heq : u.waitsFor = t
    · exact Or.inl heq
    · have hfree := hcomes hholds hne
      rw [Function.update_of_ne heq] at hfree
      exact Or.inr hfree
  · intro hfits
    have hgive : x.holds = true → status.failed = false := by
      rw [hholds]
      exact (Bool.not_eq_true' _).mp
    have hwritten := hserved.written
    refine ⟨?_, ?_, ?_⟩
    · have hreception : (if status.failed = true then u.receptions else u.receptions ++ [bytes]).flatten =
          u.receptions.flatten ++ x.toWrite := by
        unfold UartTransfer.toWrite
        rw [hholds, hreceived]
        cases status.failed with
        | true => exact (List.append_nil _).symm
        | false => exact (List.flatten_append).trans (by rw [List.flatten_singleton]; rfl)
      unfold UartTask.toWrite at hwritten ⊢
      dsimp only
      rw [hreception, ← hwritten]
      -- either nothing else waits to be written, or the bytes come behind those of the other transfer
      rcases queue_of_cons h hqueue with ⟨rfl, -, hwaits, hother⟩ | ⟨rfl, -, hother⟩
      · rw [Function.update_self, Function.update_of_ne (Transfer.other_ne _), toWrite_of_taken hwaits,
          toWrite_of_taken hother, List.append_nil, List.append_nil, List.append_nil]
      · rw [Function.update_self, Function.update_of_ne (Transfer.other_ne _).symm, toWrite_of_taken hother,
          List.append_nil, List.append_assoc]
    · intro t' ht'
      dsimp only at ht' ⊢
      by_cases heq : t' = t
      · rw [heq, Function.update_self] at ht' ⊢
        rw [hstored, hreceived]
        exact (hfits (hgive ht')).1
      · rw [Function.update_of_ne heq] at ht' ⊢
        exact hserved.length t' ht'
    · intro t' ht' hne
      dsimp only at ht' hne ⊢
      by_cases hwaits : u.waitsFor = t
      · rw [hwaits, Function.update_self]
        exact hfreed
      · rw [Function.update_of_ne hwaits]
        by_cases heq : t' = t
        · rw [heq, Function.update_self] at ht' hne
          rw [hreceived] at hne
          exact ((hfits (hgive ht')).2 hne).resolve_left hwaits
        · rw [Function.update_of_ne heq] at ht' hne
          exact hserved.comes t' ht' hne

end Task

/-! ## Both buses -/

theorem receive_of_nil {bus : UARTbus} {s : State} (hqueue : (s bus).queue = []) (bytes : List UInt8)
    (status : UARTtransferStatus) : receive bus bytes status s = s := by
  rw [receive, hqueue]

/-- The length a callback finds. -/
def lengthFound (bus : UARTbus) (bytes : List UInt8) (s : State) : Nat :=
  if bus = .bus2_uart then (s .bus0_uart).prevBytesRead else bytes.length

theorem receive_of_cons {bus : UARTbus} {s : State} {t : Transfer} {queue : List Transfer}
    (hqueue : (s bus).queue = t :: queue) (bytes : List UInt8) (status : UARTtransferStatus) :
    receive bus bytes status s = Function.update s bus
      (((s bus).complete t queue bytes status).calledBack t (lengthFound bus bytes s)) := by
  rw [receive, hqueue]
  dsimp only
  cases bus with
  | bus0_uart =>
      show uartCallback .bus0_uart .bus0_uart t _ = _
      rw [uartCallback, Function.update_self, Function.update_idem]
      rfl
  | bus2_uart =>
      show uartCallback .bus0_uart .bus2_uart t _ = _
      rw [uartCallback, Function.update_self, Function.update_of_ne (by decide), Function.update_idem]
      rfl

/-- Every task has its transfers in order. -/
def Ordered (s : State) : Prop := ∀ bus, (s bus).Ordered

def Served (s : State) : Prop := ∀ bus, (s bus).Served

theorem ordered_update {s : State} (h : Ordered s) {bus : UARTbus} {u : UartTask} (hu : u.Ordered) :
    Ordered (Function.update s bus u) := by
  intro bus'
  by_cases heq : bus' = bus
  · rw [heq, Function.update_self]
    exact hu
  · rw [Function.update_of_ne heq]
    exact h bus'

theorem served_update_iff {s : State} (h : Served s) {bus : UARTbus} {u : UartTask} :
    Served (Function.update s bus u) ↔ u.Served := by
  constructor
  · intro hall
    have hbus := hall bus
    rwa [Function.update_self] at hbus
  · intro hu bus'
    by_cases heq : bus' = bus
    · rw [heq, Function.update_self]
      exact hu
    · rw [Function.update_of_ne heq]
      exact h bus'

theorem ordered_step (e : Event) (s : State) (h : Ordered s) : Ordered (step e s) := by
  cases e with
  | poll bus mutexError accepted queued =>
      exact ordered_update h (ordered_pollUart (h bus) mutexError accepted queued)
  | received bus bytes status =>
      show Ordered (receive bus bytes status s)
      cases hqueue : (s bus).queue with
      | nil => rwa [receive_of_nil hqueue]
      | cons t queue =>
          rw [receive_of_cons hqueue]
          exact ordered_update h (ordered_received (h bus) hqueue bytes status _)

theorem step_served_iff (e : Event) (s : State) (h : Ordered s) (hserved : Served s) :
    Served (step e s) ↔ EventFits e s := by
  cases e with
  | poll bus mutexError accepted queued =>
      exact (served_update_iff hserved).trans
        (pollUart_served_iff (h bus) (hserved bus) mutexError accepted queued)
  | received bus bytes status =>
      show Served (receive bus bytes status s) ↔ _
      unfold EventFits
      dsimp only
      cases hqueue : (s bus).queue with
      | nil =>
          rw [receive_of_nil hqueue]
          exact iff_of_true hserved fun t ht => by cases ht
      | cons t queue =>
          rw [receive_of_cons hqueue, served_update_iff hserved,
            received_served_iff (h bus) (hserved bus) hqueue]
          have hfound : lengthFound bus bytes s = bytes.length ↔
              (bus = .bus2_uart → bytes.length = (s .bus0_uart).prevBytesRead) := by
            unfold lengthFound
            by_cases hbus : bus = .bus2_uart
            · rw [if_pos hbus]
              exact ⟨fun heq _ => heq.symm, fun heq => (heq hbus).symm⟩
            · rw [if_neg hbus]
              exact iff_of_true rfl fun heq => absurd heq hbus
          rw [hfound]
          constructor
          · intro hfits t' ht'
            obtain rfl := Option.some.inj ht'
            exact hfits
          · intro hfits
            exact hfits t rfl

theorem ordered_initial (queued : UARTbus → Transfer → Bool) : Ordered (initial queued) := by
  intro bus
  refine ⟨?_, fun _ hfalse => by cases hfalse⟩
  unfold initial UartTask.initial
  cases hone : queued bus .uartTransfer1
  all_goals cases htwo : queued bus .uartTransfer2
  all_goals rw [List.filter_cons, List.filter_cons, hone, htwo]
  · exact Or.inr (Or.inr rfl)
  · exact Or.inr (Or.inl ⟨rfl, rfl⟩)
  · exact Or.inl ⟨Or.inl rfl, rfl, rfl⟩
  · exact Or.inl ⟨Or.inr rfl, rfl, rfl⟩

theorem served_initial (queued : UARTbus → Transfer → Bool) : Served (initial queued) := by
  intro bus
  exact ⟨rfl, fun _ hfalse => (by cases hfalse), fun _ hfalse => (by cases hfalse)⟩

/-- **Each bus gets its own bytes.** At every point of a run, the bytes of the receptions that did not
    fail are in the ring buffer of their bus or on the way there, in order, exactly if every reception on
    bus 2 that does not fail has the length of the last one on bus 0, no task waits past received bytes,
    and there is room for them. -/
theorem buses_served_iff (queued : UARTbus → Transfer → Bool) (events : List Event) :
    (∀ reached, reached <+: events → Served (run step reached (initial queued))) ↔
      AlongRun EventFits step events (initial queued) := by
  have hordered : ∀ reached, Ordered (run step reached (initial queued)) := fun reached =>
    run_invariant (I := Ordered) (fun e s h _ => ordered_step e s h) reached _ (ordered_initial queued)
      (alongRun_true reached _)
  have hstep : ∀ e s, Ordered s ∧ Served s → ((Ordered (step e s) ∧ Served (step e s)) ↔ EventFits e s) := by
    intro e s h
    rw [and_iff_right (ordered_step e s h.1)]
    exact step_served_iff e s h.1 h.2
  have hboth := forall_run_iff (I := fun s => Ordered s ∧ Served s) hstep events (initial queued)
    ⟨ordered_initial queued, served_initial queued⟩
  rw [← hboth]
  constructor
  · intro h reached hreached
    exact ⟨hordered reached, h reached hreached⟩
  · intro h reached hreached
    exact (h reached hreached).2

/-- A byte is received on bus 2, and the ring buffer gets nothing. -/
theorem byte_on_second_bus_lost :
    ¬ ∀ (queued : UARTbus → Transfer → Bool) (events reached : List Event), reached <+: events →
      Served (run step reached (initial queued)) := by
  intro h
  have hserved := h (fun _ _ => true)
    [.received .bus2_uart [1] .done_uart, .poll .bus2_uart none true true] _ (List.prefix_refl _) .bus2_uart
  exact absurd hserved.written (by decide)

end Uart
end Obsw
