import Obsw.Lib.DmaChannel
import Obsw.Lib.Loop

/-!
# `ComIF.At91Spi` — non-blocking transfers of the AT91 SPI driver

`at91_spi_non_blocking_transfer` programs the peripheral data controller and starts it,
`at91_add_second_transfer` programs a second phase behind the first, and the interrupt handler follows
the end flags until the transfer is finished. What the handler waits for is kept in two static variables;
the start of a transfer sets one of them, the other one keeps what the last second phase has left in it.

The controller sends and receives byte by byte; a reply comes after its byte was sent, and at most
`ahead` bytes are under way. `Served` and `Independent` say what is promised, and `EventFits` what the
driver needs for it.
-/

namespace Obsw
namespace At91Spi

open Loop DmaChannel

/-! ## Transfers -/

/-- `SPI_DUMMY_BUFFER_SIZE` -/
def spiDummyBufferSize : Nat := 128

inductive InternalReception where
  | writeAndRead
  | writeOnly
  | readOnly
  deriving DecidableEq, Repr

inductive TransferState where
  | idle
  | spiSuccess
  | spiOverrunError
  | spiModeError
  | spiTimeout
  deriving DecidableEq, Repr

/-- The arguments of `at91_add_second_transfer`; `none` stands for a null pointer. -/
structure SecondTransfer where
  sendBuf : Option Nat
  recvBuf : Option Nat
  transferLen : Nat
  pos : 0 < transferLen
  short : transferLen < 65536
  deriving DecidableEq

/-- What `at91_add_second_transfer` leaves for the interrupt handler. -/
def SecondTransfer.internalReception (p : SecondTransfer) : InternalReception :=
  match p.recvBuf, p.sendBuf with
  | none, _ => .writeOnly
  | some _, none => .readOnly
  | some _, some _ => .writeAndRead

/-- A transfer with one phase or two. -/
structure Transfer where
  sendBuf : Nat
  recvBuf : Option Nat
  transferLen : Nat
  pos : 0 < transferLen
  short : transferLen < 65536
  second : Option SecondTransfer
  deriving DecidableEq

/-- An address in a buffer of the user, or in the dummy buffer. -/
inductive Pointer where
  | user (address : Nat)
  | dummyBuf (index : Nat)
  deriving DecidableEq, Repr

def Pointer.succ : Pointer → Pointer
  | .user address => .user (address + 1)
  | .dummyBuf index => .dummyBuf (index + 1)

/-- A byte that was sent: the one at an address of the user, or one of the dummy buffer. -/
inductive Sent where
  | user (address : Nat)
  | byte (b : UInt8)
  deriving DecidableEq, Repr

/-! ## The driver -/

/-- The controller, the static variables and the transfer that is under way. `inFlight` counts the bytes
    that were sent and whose replies are to come. The last two fields are for the statements: what was
    sent, and where in the user's memory the replies were put. -/
structure Driver where
  tx : Channel Pointer
  rx : Channel Pointer
  enabled : Bool
  overrun : Bool
  inFlight : Nat
  currentInternalReception : InternalReception
  nextInternalReception : InternalReception
  txFinished : Bool
  rxFinished : Bool
  running : Option Transfer
  sent : List Sent
  received : List (Option Nat)
  deriving DecidableEq

namespace Driver

/-- `reset_dma_regs` -/
def resetDmaRegs (d : Driver) : Driver :=
  { d with tx := .reset (.user 0), rx := .reset (.user 0) }

/-- `at91_spi_non_blocking_transfer`, which is given a send buffer. The counters were just reset, so that
    the check of the counters passes. -/
def nonBlockingTransfer (t : Transfer) (d : Driver) : Driver :=
  let d := d.resetDmaRegs
  { d with
    -- `next_internal_reception` stays what the transfer before has left
    currentInternalReception := match t.recvBuf with
      | none => .writeOnly
      | some _ => .writeAndRead
    overrun := false
    txFinished := false
    rxFinished := false
    tx := d.tx.setCurrent (.user t.sendBuf) t.transferLen
    rx := match t.recvBuf with
      | none =>
        if t.transferLen < spiDummyBufferSize then
          (d.rx.setCurrent (.dummyBuf 0) t.transferLen).setNext (.dummyBuf 0) 0
        else (d.rx.setCurrent (.dummyBuf 0) spiDummyBufferSize).setNext (.dummyBuf 0) spiDummyBufferSize
      | some recvBuf => d.rx.setCurrent (.user recvBuf) t.transferLen
    running := some t
    sent := []
    received := [] }

/-- The pointer of a buffer that may be missing, and the number of bytes it has room for. -/
def bufferOf (buf : Option Nat) (transferLen : Nat) : Pointer × Nat :=
  match buf with
  | none => (.dummyBuf 0, if transferLen ≥ spiDummyBufferSize then spiDummyBufferSize else transferLen)
  | some address => (.user address, transferLen)

/-- `at91_add_second_transfer` -/
def addSecondTransfer (p : SecondTransfer) (d : Driver) : Driver :=
  let send := bufferOf p.sendBuf p.transferLen
  let recv := bufferOf p.recvBuf p.transferLen
  { d with
    tx := d.tx.setNext send.1 send.2
    rx := d.rx.setNext recv.1 recv.2
    nextInternalReception := p.internalReception
    enabled := true }

/-- The calls that start a transfer: one, or two if there is a second phase. -/
def start (t : Transfer) (d : Driver) : Driver :=
  match t.second with
  | none => { d.nonBlockingTransfer t with enabled := true }
  | some p => (d.nonBlockingTransfer t).addSecondTransfer p

/-! ## The interrupt handler -/

/-- The branch for `ENDTX`. -/
def handleEndTx (rxBuff : Bool) (d : Driver) : Driver :=
  let d := { d with currentInternalReception := d.nextInternalReception }
  if d.currentInternalReception = .readOnly ∧ rxBuff = false then
    if d.tx.nextCount = 0 then { d with tx := d.tx.setNext (.dummyBuf 0) spiDummyBufferSize } else d
  else d

/-- The branch for `ENDRX`. -/
def handleEndRx (txBufE : Bool) (d : Driver) : Driver :=
  let d := { d with currentInternalReception := d.nextInternalReception }
  if d.currentInternalReception = .writeOnly ∧ txBufE = false then
    if d.rx.nextCount = 0 then { d with rx := d.rx.setNext (.dummyBuf 0) spiDummyBufferSize } else d
  else d

/-- The branches for the four end flags. The flags are read once, at the beginning. -/
def handleEndFlags (d : Driver) : Driver :=
  let txBufE := d.tx.done
  let rxBuff := d.rx.done
  let endRx := d.rx.ended
  let d := if d.tx.ended then d.handleEndTx rxBuff else d
  let d := if endRx then d.handleEndRx txBufE else d
  { d with txFinished := d.txFinished || txBufE, rxFinished := d.rxFinished || rxBuff }

/-- How the transfer has ended, if it has. -/
def transferState (modeFault overrunError : Bool) (d : Driver) : Option TransferState :=
  if modeFault then some .spiModeError
  else if overrunError then some .spiOverrunError
  else if d.currentInternalReception = .writeOnly ∧ d.txFinished = true then some .spiSuccess
  else if d.currentInternalReception = .readOnly ∧ d.rxFinished = true then some .spiSuccess
  else if d.rxFinished = true ∧ d.txFinished = true then some .spiSuccess
  else none

/-- `generic_spi_interrupt_handler`. An overrun counts while neither channel is done. -/
def spiInterruptHandler (modeFault : Bool) (d : Driver) : Driver × Option TransferState :=
  let overrunError := d.overrun && !d.tx.done && !d.rx.done
  let d' := { d.handleEndFlags with overrun := false }
  match d'.transferState modeFault overrunError with
  | none => (d', none)
  | some state => ({ d'.resetDmaRegs with enabled := false, running := none }, some state)

end Driver

/-! ## Runs -/

/-- A call of the user's callback. -/
structure Completion where
  transfer : Transfer
  state : TransferState
  sent : List Sent
  received : List (Option Nat)
  deriving DecidableEq

/-- The driver with its dummy buffer, the transfers that were started, and the callbacks. -/
structure State where
  driver : Driver
  dummyBuf : Nat → UInt8
  started : List Transfer
  completions : List Completion

inductive Event where
  | start (t : Transfer)
  | transmit
  | receive (reply : UInt8)
  | interrupt (modeFault : Bool)

namespace State

/-- The address the controller sends from next. -/
def sends (ahead : Nat) (s : State) : Option (Pointer × Channel Pointer) :=
  if s.driver.enabled = true ∧ s.driver.inFlight < ahead then s.driver.tx.step .succ else none

def read (s : State) : Pointer → Sent
  | .user address => .user address
  | .dummyBuf index => .byte (s.dummyBuf index)

/-- The controller sends a byte. -/
def transmit (ahead : Nat) (s : State) : State :=
  match s.sends ahead with
  | none => s
  | some (p, tx) =>
    { s with driver := { s.driver with
      tx := tx
      inFlight := s.driver.inFlight + 1
      sent := s.driver.sent ++ [s.read p] } }

/-- A reply comes in. Without room for it, it is lost. -/
def receive (reply : UInt8) (s : State) : State :=
  if s.driver.inFlight = 0 then s
  else
    let s := { s with driver := { s.driver with inFlight := s.driver.inFlight - 1 } }
    if s.driver.enabled then
      match s.driver.rx.step .succ with
      | none =>
        { s with driver := { s.driver with overrun := true, received := s.driver.received ++ [none] } }
      | some (.user address, rx) =>
        { s with driver := { s.driver with rx := rx, received := s.driver.received ++ [some address] } }
      | some (.dummyBuf index, rx) =>
        { s with
          driver := { s.driver with rx := rx, received := s.driver.received ++ [none] }
          dummyBuf := fun i => if i = index then reply else s.dummyBuf i }
    else s

/-- The interrupt handler of the bus: it is enabled while a transfer is under way, and calls the
    callback. -/
def interrupt (modeFault : Bool) (s : State) : State :=
  match s.driver.running with
  | none => s
  | some t =>
    let result := s.driver.spiInterruptHandler modeFault
    match result.2 with
    | none => { s with driver := result.1 }
    | some state =>
      { s with
        driver := result.1
        completions := s.completions ++ [⟨t, state, s.driver.sent, s.driver.received⟩] }

end State

def step (ahead : Nat) : Event → State → State
  | .start t, s => { s with driver := s.driver.start t, started := s.started ++ [t] }
  | .transmit, s => s.transmit ahead
  | .receive reply, s => s.receive reply
  | .interrupt modeFault, s => s.interrupt modeFault

/-- The driver behind `at91_spi_configure_non_blocking_driver`. -/
def State.initial : State where
  driver :=
    { tx := .reset (.user 0), rx := .reset (.user 0), enabled := false, overrun := false, inFlight := 0
      currentInternalReception := .writeAndRead, nextInternalReception := .writeAndRead
      txFinished := false, rxFinished := false, running := none, sent := [], received := [] }
  dummyBuf := fun _ => 0
  started := []
  completions := []

/-! ## What is promised -/

namespace Transfer

/-- What the handler waits for: what a driver has at first, unless a second phase says something else. -/
def reception (t : Transfer) : InternalReception :=
  match t.second with
  | none => .writeAndRead
  | some p => p.internalReception

def total (t : Transfer) : Nat :=
  t.transferLen + match t.second with
    | none => 0
    | some p => p.transferLen

/-- The bytes to be sent: those of the send buffers, and zeros where there is none. -/
def requested (t : Transfer) (i : Nat) : Sent :=
  if i < t.transferLen then .user (t.sendBuf + i)
  else match t.second.bind SecondTransfer.sendBuf with
    | none => .byte 0
    | some sendBuf => .user (sendBuf + (i - t.transferLen))

/-- Where the replies are to be put. -/
def wanted (t : Transfer) (i : Nat) : Option Nat :=
  if i < t.transferLen then t.recvBuf.map (· + i)
  else if i < t.total then (t.second.bind SecondTransfer.recvBuf).map (· + (i - t.transferLen))
  else none

end Transfer

/-- All bytes were sent, and all replies were put where they belong, and nowhere else. -/
structure Done (t : Transfer) (sent : List Sent) (received : List (Option Nat)) : Prop where
  sent : ∀ i, i < t.total → sent[i]? = some (t.requested i)
  received : ∀ i, received[i]?.join = t.wanted i

/-- Every transfer that was started is signalled once, or is under way. A success is signalled for what
    is done. If the controller is at rest, the handler signals the transfer or gives the controller
    something to send. -/
structure Served (s : State) : Prop where
  once : s.started = s.completions.map Completion.transfer ++ s.driver.running.toList
  done : ∀ c ∈ s.completions, c.state = .spiSuccess → Done c.transfer c.sent c.received
  rest : s.driver.running ≠ none → s.driver.tx.done = true → s.driver.inFlight = 0 →
    (s.driver.spiInterruptHandler false).2 ≠ none ∨ (s.driver.spiInterruptHandler false).1.tx.done = false

/-- What the driver can do. A single phase needs what a driver has at first, and replies that nobody
    wants must end within one dummy buffer or outlast two. Of two phases, the first leaves the registers
    of the second alone if the replies of the second are wanted; and if they are not, the zeros of the
    second fit into the dummy buffer, and it is not shorter than what is under way while the replies of
    the first are wanted. -/
def StartFits (ahead : Nat) (t : Transfer) (next : InternalReception) : Prop :=
  match t.second with
  | none =>
    next = .writeAndRead ∧
      (t.recvBuf = none → t.transferLen < spiDummyBufferSize ∨ 2 * spiDummyBufferSize ≤ t.transferLen)
  | some p =>
    (t.recvBuf = none → p.recvBuf ≠ none → t.transferLen ≤ spiDummyBufferSize) ∧
      (p.recvBuf = none → p.sendBuf = none → p.transferLen ≤ spiDummyBufferSize) ∧
      (p.recvBuf = none → t.recvBuf ≠ none → ahead ≤ p.transferLen)

/-- A transfer is started when the one before it is completed, as the users of the driver do. -/
def StartsApart (e : Event) (s : State) : Prop :=
  match e with
  | .start _ => s.driver.running = none
  | .transmit => True
  | .receive _ => True
  | .interrupt _ => True

instance (e : Event) (s : State) : Decidable (StartsApart e s) :=
  match e with
  | .start _ => inferInstanceAs (Decidable (s.driver.running = none))
  | .transmit => .isTrue trivial
  | .receive _ => .isTrue trivial
  | .interrupt _ => .isTrue trivial

/-- What a transfer does is what it does as the first one: the driver behind its steps is the same. -/
def Independent (ahead : Nat) (events : List Event) : Prop :=
  ∀ pre t own, pre ++ .start t :: own <+: events → (∀ e ∈ own, ∀ t', e ≠ .start t') →
    (run (step ahead) (pre ++ .start t :: own) .initial).driver =
      (run (step ahead) (.start t :: own) .initial).driver

/-- A transfer that fits is started when the bytes of the one before it are out, and the bytes that are
    sent from the dummy buffer are zeros. -/
def EventFits (ahead : Nat) (e : Event) (s : State) : Prop :=
  match e with
  | .start t =>
    s.driver.running = none ∧ s.driver.inFlight = 0 ∧ StartFits ahead t s.driver.nextInternalReception
  | .transmit => ∀ index tx, s.sends ahead = some (.dummyBuf index, tx) → s.dummyBuf index = 0
  | .receive _ => True
  | .interrupt _ => True

end At91Spi
end Obsw
