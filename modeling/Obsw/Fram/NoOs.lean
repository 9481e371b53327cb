import Obsw.ComIF.At91Spi
import Obsw.Fram.Api

/-!
# `Fram.NoOs` — the FRAM driver of the bootloader

`FRAMNoOs.c`: two variants to read and to write, one that polls the SPI peripheral and one that starts a
DMA transfer. A transfer is the list of frames it puts on the bus, one for each chip select. Of the SPI
driver underneath, `At91SpiDriver.c`, the flags of bus 0 are kept, and what its functions make of them;
what the peripheral does within the limit of the polled transfer is an input. A DMA transfer is at its end
when the next request is made, and `fram_stop_no_os` is not called.

On which requests the variants are right they agree only in `EventFits` (`driver_served_iff`).
-/

namespace Obsw
namespace FramNoOs

open Memory Fram Loop

/-! ## Frames -/

def writeEnbLatch : UInt8 := 0x06
def writeCfg : UInt8 := 0x01
def writeOpReg : UInt8 := 0x02
def readOpReg : UInt8 := 0x03

/-- The bytes that are sent in one chip select, and the number of bytes that are read behind them. -/
structure Frame where
  sent : List UInt8
  received : Nat
  deriving DecidableEq, Repr

/-- The command buffer: the operation, and the address with its most significant byte first. -/
def cmdBuf (operation : UInt8) (address : UInt32) : List UInt8 :=
  [operation, (address >>> 16).toUInt8, (address >>> 8).toUInt8, address.toUInt8]

/-! ## The SPI driver -/

/-- `bus_0_active` and `bus_0_aic_configured` of the SPI driver, and `fram_started`; and, for the
    statements, whether a start function has returned 0. -/
structure Driver where
  bus0Active : Bool
  bus0AicConfigured : Bool
  framStarted : Bool
  started : Bool
  deriving DecidableEq, Repr

/-- How far the peripheral comes within `max_block_cycles`: the transmitter does not get empty, or the reply
    to the byte of this index does not come. -/
inductive Polled where
  | done
  | notEmpty
  | noReply (index : Nat)
  deriving DecidableEq, Repr

/-- `at91_spi_configure_driver`, for the bus and the chip select of the FRAM. -/
def at91SpiConfigureDriver (d : Driver) : Int × Driver := (0, { d with bus0Active := true })

/-- `at91_spi_configure_non_blocking_driver`. -/
def at91SpiConfigureNonBlockingDriver (d : Driver) : Int × Driver :=
  if d.bus0Active = false then (-3, d) else (0, { d with bus0AicConfigured := true })

/-- `at91_spi_blocking_transfer_non_interrupt`: the result, and what was put on the bus. -/
def at91SpiBlockingTransferNonInterrupt (o : Polled) (sendBuf : List UInt8) (d : Driver) :
    Int × List Frame :=
  if d.bus0Active = false then (-3, [])
  else
    match o with
    | .done => (0, [⟨sendBuf, 0⟩])
    | .notEmpty => (-2, [])
    | .noReply index => (-2, [⟨sendBuf.take (index + 1), 0⟩])

/-- `at91_spi_non_blocking_transfer`, which is given a command. It clears the counters itself, so that the
    check of the counters passes. -/
def at91SpiNonBlockingTransfer (d : Driver) : Int := if d.bus0AicConfigured = false then -3 else 0

/-- The counters of the DMA controller have 16 bits. -/
def dmaCount (len : Nat) : Nat := len % 2 ^ 16

/-! ## The driver -/

/-- `AT91C_AIC_PRIOR_HIGHEST`. -/
def aicPriorHighest : Nat := 7

/-- `enable_writes`. -/
def enableWrites (o : Polled) (d : Driver) : Int × List Frame :=
  at91SpiBlockingTransferNonInterrupt o [writeEnbLatch] d

/-- `fram_start_no_os_no_interrupt`. It returns in front of the assignment to `fram_started`. -/
def framStartNoOsNoInterrupt (d : Driver) : Int × Driver := at91SpiConfigureDriver d

/-- `fram_start_no_os`. -/
def framStartNoOs (callback : Bool) (interruptPriority : Nat) (enable config : Polled) (d : Driver) :
    Int × Driver :=
  if callback = false then (-1, d)
  else if aicPriorHighest < interruptPriority then (-1, d)
  else
    let configured := at91SpiConfigureDriver d
    if configured.1 ≠ 0 then configured
    else
      let nonBlocking := at91SpiConfigureNonBlockingDriver configured.2
      if nonBlocking.1 ≠ 0 then nonBlocking
      else if (enableWrites enable nonBlocking.2).1 ≠ 0 then
        ((enableWrites enable nonBlocking.2).1, nonBlocking.2)
      else if (at91SpiBlockingTransferNonInterrupt config [writeCfg, 0] nonBlocking.2).1 ≠ 0 then
        (-2, nonBlocking.2)
      else (0, { nonBlocking.2 with framStarted := true })

/-- `fram_read_no_os`. -/
def framReadNoOs (address len : UInt32) (d : Driver) : Int × List Frame :=
  if framEndAddr < (address + len).toNat ∨ d.framStarted = false then (-1, [])
  else if at91SpiNonBlockingTransfer d ≠ 0 then (at91SpiNonBlockingTransfer d, [])
  else (0, [⟨cmdBuf readOpReg address, dmaCount len.toNat⟩])

/-- `fram_read_no_os_blocking`: the loop runs to `len + 4`. -/
def framReadNoOsBlocking (address len : UInt32) : Int × List Frame :=
  (0, [⟨(cmdBuf readOpReg address).take (len + 4).toNat, polledSize len.toNat⟩])

/-- `fram_write_no_os`, for the memory from the send buffer on. -/
def framWriteNoOs (o : Polled) (sendBuf : Mem UInt8) (address len : UInt32) (d : Driver) :
    Int × List Frame :=
  if framEndAddr < (address + len).toNat then (-1, [])
  else
    let enabled := enableWrites o d
    if enabled.1 ≠ 0 then enabled
    else if at91SpiNonBlockingTransfer d ≠ 0 then (at91SpiNonBlockingTransfer d, enabled.2)
    else (0, enabled.2 ++ [⟨cmdBuf writeOpReg address ++ load sendBuf 0 (dmaCount len.toNat), 0⟩])

/-- `fram_write_no_os_blocking`. -/
def framWriteNoOsBlocking (sendBuf : Mem UInt8) (address len : UInt32) : Int × List Frame :=
  (0, [⟨[writeEnbLatch], 0⟩,
    ⟨(cmdBuf writeOpReg address ++ load sendBuf 0 len.toNat).take (len + 4).toNat, 0⟩])

/-! ## Runs -/

inductive Request where
  | read (address len : UInt32)
  | write (sendBuf : Mem UInt8) (address len : UInt32)

inductive Variant where
  | blocking
  | nonBlocking

def Driver.request (variant : Variant) (r : Request) (o : Polled) (d : Driver) : Int × List Frame :=
  match variant, r with
  | .blocking, .read address len => framReadNoOsBlocking address len
  | .blocking, .write sendBuf address len => framWriteNoOsBlocking sendBuf address len
  | .nonBlocking, .read address len => framReadNoOs address len d
  | .nonBlocking, .write sendBuf address len => framWriteNoOs o sendBuf address len d

inductive Event where
  | startNoInterrupt
  | start (callback : Bool) (interruptPriority : Nat) (enable config : Polled)
  | request (variant : Variant) (r : Request) (o : Polled)

/-- A start that returned 0 is remembered. -/
def Driver.afterStart (result : Int × Driver) : Driver :=
  { result.2 with started := result.2.started || decide (result.1 = 0) }

def Driver.step : Event → Driver → Driver
  | .startNoInterrupt, d => .afterStart (framStartNoOsNoInterrupt d)
  | .start callback interruptPriority enable config, d =>
    .afterStart (framStartNoOs callback interruptPriority enable config d)
  | .request _ _ _, d => d

def Driver.initial : Driver := ⟨false, false, false, false⟩

/-! ## What is promised -/

namespace Request

def address : Request → UInt32
  | .read address _ => address
  | .write _ address _ => address

def len : Request → UInt32
  | .read _ len => len
  | .write _ _ len => len

/-- The whole range lies inside the FRAM. -/
def Inside (r : Request) : Prop := r.address.toNat + r.len.toNat ≤ framEndAddr + 1

instance (r : Request) : Decidable r.Inside := inferInstanceAs (Decidable (_ ≤ _))

/-- The frames of an accepted request: a write is preceded by the write enable command. -/
def frames : Request → List Frame
  | .read address len => [⟨cmdBuf readOpReg address, len.toNat⟩]
  | .write sendBuf address len =>
    [⟨[writeEnbLatch], 0⟩, ⟨cmdBuf writeOpReg address ++ load sendBuf 0 len.toNat, 0⟩]

/-- The DMA transfer that is started for a request: the command, and behind it the data. The command buffer
    and the buffer of the caller are at these addresses. -/
def transfer (r : Request) (command data : Nat) (hpos : 0 < r.len.toNat) (hshort : r.len.toNat < 65536) :
    At91Spi.Transfer where
  sendBuf := command
  recvBuf := none
  transferLen := 4
  pos := by decide
  short := by decide
  second :=
    match r with
    | .read _ len => some ⟨none, some data, len.toNat, hpos, hshort⟩
    | .write _ _ len => some ⟨some data, none, len.toNat, hpos, hshort⟩

/-- The SPI driver can do the transfer, whatever the transfers before it have left. -/
theorem transfer_startFits (r : Request) (command data : Nat) (hpos : 0 < r.len.toNat)
    (hshort : r.len.toNat < 65536) (ahead : Nat) (next : At91Spi.InternalReception) :
    At91Spi.StartFits ahead (r.transfer command data hpos hshort) next := by
  have hfour : 4 ≤ At91Spi.spiDummyBufferSize := by decide
  cases r <;> simp [At91Spi.StartFits, transfer, hfour]

end Request

/-- The request is accepted exactly if the driver was started and the range lies inside the FRAM. Its
    frames are put on the bus, and a refused one leaves the bus alone. -/
structure Served (started : Bool) (r : Request) (result : Int × List Frame) : Prop where
  accepted : result.1 = 0 ↔ started = true ∧ r.Inside
  frames : result.1 = 0 → result.2 = r.frames
  refused : result.1 ≠ 0 → result.2 = []

/-- Every request is served. -/
def EventServed (e : Event) (d : Driver) : Prop :=
  match e with
  | .request variant r o => Served d.started r (d.request variant r o)
  | _ => True

/-- A variant that turns a request down in front of the bus must be right to do so; one that goes on needs
    a driver that was started, a range inside the FRAM and, for DMA, a length of 16 bits. -/
def RequestFits (variant : Variant) (r : Request) (o : Polled) (d : Driver) : Prop :=
  match variant, r with
  | .blocking, r => d.started = true ∧ r.Inside
  | .nonBlocking, .read address len =>
    if framEndAddr < (address + len).toNat ∨ d.framStarted = false then
      ¬ (d.started = true ∧ (Request.read address len).Inside)
    else (Request.read address len).Inside ∧ len.toNat < 2 ^ 16
  | .nonBlocking, .write sendBuf address len =>
    if framEndAddr < (address + len).toNat ∨ d.bus0Active = false ∨ o = .notEmpty then
      ¬ (d.started = true ∧ (Request.write sendBuf address len).Inside)
    else
      (o = .done ∧ d.bus0AicConfigured = true) ∧ d.started = true ∧
        (Request.write sendBuf address len).Inside ∧ len.toNat < 2 ^ 16

def EventFits (e : Event) (d : Driver) : Prop :=
  match e with
  | .request variant r o => RequestFits variant r o d
  | _ => True

/-! ## One request -/

section Requests

variable {d : Driver} {r : Request} {started : Bool}

/-- A request that is turned down in front of the bus is served if it had to be. -/
theorem served_refused {code : Int} (hcode : code ≠ 0) :
    Served started r (code, []) ↔ ¬ (started = true ∧ r.Inside) := by
  constructor
  · exact fun h hinside => hcode (h.accepted.mpr hinside)
  · exact fun h => ⟨iff_of_false hcode h, fun hzero => absurd hzero hcode, fun _ => rfl⟩

/-- One that fails behind the first frame is not served. -/
theorem not_served_of_frame {code : Int} {frame : Frame} {frames : List Frame} (hcode : code ≠ 0) :
    ¬ Served started r (code, frame :: frames) := by
  intro h
  exact List.cons_ne_nil _ _ (h.refused hcode)

theorem served_accepted {frames : List Frame} :
    Served started r (0, frames) ↔ started = true ∧ r.Inside ∧ frames = r.frames := by
  constructor
  · intro h
    obtain ⟨hstarted, hinside⟩ := h.accepted.mp rfl
    exact ⟨hstarted, hinside, h.frames rfl⟩
  · rintro ⟨hstarted, hinside, hframes⟩
    exact ⟨iff_of_true rfl ⟨hstarted, hinside⟩, fun _ => hframes, fun hne => absurd rfl hne⟩

/-- A length is counted as it is if it fits the counter. -/
theorem dmaCount_eq_iff {len : Nat} : dmaCount len = len ↔ len < 2 ^ 16 := by
  unfold dmaCount
  omega

/-- What `fram_started` says of the other flags. -/
def Driver.Coherent (d : Driver) : Prop :=
  d.framStarted = true → d.started = true ∧ d.bus0AicConfigured = true

theorem framReadNoOs_served (address len : UInt32) (h : d.Coherent) (o : Polled) :
    Served d.started (.read address len) (framReadNoOs address len d) ↔
      RequestFits .nonBlocking (.read address len) o d := by
  unfold framReadNoOs RequestFits
  dsimp only
  by_cases htest : framEndAddr < (address + len).toNat ∨ d.framStarted = false
  · rw [if_pos htest, if_pos htest]
    exact served_refused (by decide)
  · rw [if_neg htest, if_neg htest]
    -- the start function that sets `fram_started` has configured the interrupt
    have hflag : d.framStarted = true := Bool.eq_true_of_not_eq_false (not_or.mp htest).2
    obtain ⟨hstarted, haic⟩ := h hflag
    have hspi : at91SpiNonBlockingTransfer d = 0 := if_neg (by simp [haic])
    rw [if_neg (not_not.mpr hspi), served_accepted]
    simp [Request.frames, dmaCount_eq_iff, hstarted]

theorem framWriteNoOs_served (sendBuf : Mem UInt8) (address len : UInt32) (o : Polled) :
    Served d.started (.write sendBuf address len) (framWriteNoOs o sendBuf address len d) ↔
      RequestFits .nonBlocking (.write sendBuf address len) o d := by
  unfold framWriteNoOs RequestFits
  dsimp only
  by_cases hrange : framEndAddr < (address + len).toNat
  · rw [if_pos hrange, if_pos (.inl hrange)]
    exact served_refused (by decide)
  rw [if_neg hrange]
  by_cases hactive : d.bus0Active = false
  · have henable : enableWrites o d = (-3, []) := if_pos hactive
    rw [henable, if_pos (show (-3 : Int) ≠ 0 by decide), if_pos (.inr (.inl hactive))]
    exact served_refused (by decide)
  cases o with
  | notEmpty =>
      have henable : enableWrites .notEmpty d = (-2, []) := if_neg hactive
      rw [henable, if_pos (show (-2 : Int) ≠ 0 by decide), if_pos (.inr (.inr rfl))]
      exact served_refused (by decide)
  | noReply index =>
      have henable : enableWrites (.noReply index) d = (-2, [⟨[writeEnbLatch], 0⟩]) := by
        unfold enableWrites at91SpiBlockingTransferNonInterrupt
        rw [if_neg hactive]
        simp
      rw [henable, if_pos (show (-2 : Int) ≠ 0 by decide),
        if_neg (not_or.mpr ⟨hrange, not_or.mpr ⟨hactive, nofun⟩⟩)]
      exact iff_of_false (not_served_of_frame (by decide)) fun hfits => nomatch hfits.1.1
  | done =>
      have henable : enableWrites .done d = (0, [⟨[writeEnbLatch], 0⟩]) := if_neg hactive
      rw [henable, if_neg (show ¬ (0 : Int) ≠ 0 by decide),
        if_neg (not_or.mpr ⟨hrange, not_or.mpr ⟨hactive, nofun⟩⟩)]
      by_cases haic : d.bus0AicConfigured = false
      · -- the write enable command was sent before the transfer is refused
        have hspi : at91SpiNonBlockingTransfer d = -3 := if_pos haic
        rw [hspi, if_pos (show (-3 : Int) ≠ 0 by decide)]
        exact iff_of_false (not_served_of_frame (by decide)) fun hfits => absurd hfits.1.2 (by simp [haic])
      · have hspi : at91SpiNonBlockingTransfer d = 0 := if_neg haic
        have hload : load sendBuf 0 (dmaCount len.toNat) = load sendBuf 0 len.toNat ↔
            len.toNat < 2 ^ 16 := by
          rw [← dmaCount_eq_iff]
          refine ⟨fun heq => ?_, congrArg (load sendBuf 0)⟩
          have hlength := congrArg List.length heq
          rwa [load_length, load_length] at hlength
        rw [hspi, if_neg (show ¬ (0 : Int) ≠ 0 by decide), served_accepted]
        simp [Request.frames, hload, haic]

/-- Inside the FRAM the counter of the loop does not wrap. -/
theorem loop_length (h : r.Inside) : (r.len + 4).toNat = r.len.toNat + 4 := by
  have hinside : r.address.toNat + r.len.toNat ≤ 0x3ffff + 1 := h
  have hlt : r.len.toNat + 4 < 2 ^ 32 := by omega
  rw [UInt32.toNat_add]
  exact Nat.mod_eq_of_lt hlt

theorem blocking_frames (h : r.Inside) (o : Polled) (d : Driver) :
    (d.request .blocking r o).2 = r.frames := by
  have hlen := loop_length h
  cases r with
  | read address len =>
      show [Frame.mk ((cmdBuf readOpReg address).take (len + 4).toNat) ((len + 4).toNat - 4)] = _
      rw [show (len + 4).toNat = len.toNat + 4 from hlen, Nat.add_sub_cancel,
        List.take_of_length_le (Nat.le_add_left 4 _)]
      rfl
  | write sendBuf address len =>
      show [Frame.mk [writeEnbLatch] 0, Frame.mk ((cmdBuf writeOpReg address ++
        load sendBuf 0 len.toNat).take (len + 4).toNat) 0] = _
      rw [show (len + 4).toNat = len.toNat + 4 from hlen, List.take_of_length_le]
      · rfl
      · rw [List.length_append, load_length, Nat.add_comm]
        exact Nat.le_refl _

theorem blocking_accepts (r : Request) (o : Polled) (d : Driver) : (d.request .blocking r o).1 = 0 := by
  cases r <;> rfl

/-- The blocking variants refuse nothing. -/
theorem blocking_served (r : Request) (o : Polled) :
    Served started r (d.request .blocking r o) ↔ started = true ∧ r.Inside := by
  have hzero := blocking_accepts r o d
  constructor
  · exact fun h => h.accepted.mp hzero
  · intro h
    exact ⟨iff_of_true hzero h, fun _ => blocking_frames h.2 o d, fun hne => absurd hzero hne⟩

end Requests

/-! ## Runs -/

/-- What `fram_start_no_os` leaves behind. -/
theorem framStartNoOs_cases (callback : Bool) (interruptPriority : Nat) (enable config : Polled) (d : Driver) :
    (∃ code, code ≠ 0 ∧ framStartNoOs callback interruptPriority enable config d = (code, d)) ∨
    (∃ code, code ≠ 0 ∧ framStartNoOs callback interruptPriority enable config d =
      (code, { d with bus0Active := true, bus0AicConfigured := true })) ∨
    framStartNoOs callback interruptPriority enable config d =
      (0, { d with bus0Active := true, bus0AicConfigured := true, framStarted := true }) := by
  have hdma : at91SpiConfigureNonBlockingDriver (at91SpiConfigureDriver d).2 =
      (0, { d with bus0Active := true, bus0AicConfigured := true }) := rfl
  have hactive : (at91SpiConfigureDriver d).1 = 0 := rfl
  unfold framStartNoOs
  dsimp only
  rw [hactive, if_neg (show ¬ (0 : Int) ≠ 0 by decide), hdma, if_neg (show ¬ (0 : Int) ≠ 0 by decide)]
  split_ifs with hcallback hpriority henable hconfig
  · exact .inl ⟨-1, by decide, rfl⟩
  · exact .inl ⟨-1, by decide, rfl⟩
  · exact .inr (.inl ⟨_, henable, rfl⟩)
  · exact .inr (.inl ⟨-2, by decide, rfl⟩)
  · exact .inr (.inr rfl)

theorem coherent_step (e : Event) (d : Driver) (h : d.Coherent) : (d.step e).Coherent := by
  cases e with
  | request variant r o => exact h
  | startNoInterrupt => exact fun hflag => ⟨Bool.or_true _, (h hflag).2⟩
  | start callback interruptPriority enable config =>
      intro hflag
      rw [Driver.step] at hflag ⊢
      rcases framStartNoOs_cases callback interruptPriority enable config d with
        ⟨code, -, hrun⟩ | ⟨code, -, hrun⟩ | hrun
      · rw [hrun] at hflag ⊢
        exact ⟨by simp [Driver.afterStart, (h hflag).1], (h hflag).2⟩
      · rw [hrun] at hflag ⊢
        exact ⟨by simp [Driver.afterStart, (h hflag).1], rfl⟩
      · rw [hrun]
        exact ⟨Bool.or_true _, rfl⟩

/-- **One request.** -/
theorem eventServed_iff (e : Event) (d : Driver) (h : d.Coherent) : EventServed e d ↔ EventFits e d := by
  cases e with
  | request variant r o =>
      cases variant with
      | blocking => exact blocking_served r o
      | nonBlocking =>
          cases r with
          | read address len => exact framReadNoOs_served address len h o
          | write sendBuf address len => exact framWriteNoOs_served sendBuf address len o
  | startNoInterrupt => exact Iff.rfl
  | start _ _ _ _ => exact Iff.rfl

end FramNoOs
end Obsw
