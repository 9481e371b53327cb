import Obsw.Fram.Layout
import Obsw.Lib.Device

/-!
# `Fram.Api` — the FRAM functions used by the bootloader and the copying engine

`CommonFRAM.c` (addresses by slot), the parts of `FRAMApi.c` the on-board software writes images with,
and the polled functions of `FRAMApiNoOs.c` the bootloader uses. An address of 0 stands for "no such
field", as in the source. The polled transfer functions always return 0; the driver behind `FRAMApi.c`
may fail (`WriteOutcome`).
-/

namespace Obsw
namespace Fram

open Memory LittleEndian Device

/-! ## `CommonFRAM.c` -/

def determineImgRebootCounterAddr : SlotType → Nat
  | .flashSlot => norFlashRebootCounter.addr
  | .sdc0Sl0 => sdc0ImageSlot0RebootCounter.addr
  | .sdc0Sl1 => sdc0ImageSlot1RebootCounter.addr
  | .sdc1Sl0 => sdc1ImageSlot0RebootCounter.addr
  | .sdc1Sl1 => sdc1ImageSlot1RebootCounter.addr
  | .bootloader0 => 0
  | .bootloader1 => 0

def determineHamCodeAddress : SlotType → Nat
  | .flashSlot => norFlashHammingAddr
  | .sdc0Sl0 => sdc0Slot0HammingAddr
  | .sdc0Sl1 => sdc0Slot1HammingAddr
  | .sdc1Sl0 => sdc1Slot0HammingAddr
  | .sdc1Sl1 => sdc1Slot1HammingAddr
  | .bootloader0 => bootloaderHammingAddr
  | .bootloader1 => 0

/-- The reserved size of a slot's hamming code region. -/
def hamCodeReservedSize : SlotType → Nat
  | .bootloader0 => bootloaderHammingReservedSize
  | _ => imagesHammingReservedSize

/-- `determine_ham_code_address_with_sizecheck`: the address, or an error code. -/
def determineHamCodeAddressWithSizecheck (slotType : SlotType) (sizeToWrite : Nat) :
    Except Int Nat :=
  if determineHamCodeAddress slotType = 0 then .error (-4)
  else if hamCodeReservedSize slotType < sizeToWrite then .error (-5)
  else .ok (determineHamCodeAddress slotType)

def determineHamSizeAddress : SlotType → Nat
  | .flashSlot => norFlashHammingCodeSize.addr
  | .sdc0Sl0 => sdc0ImageSlot0HammingSize.addr
  | .sdc0Sl1 => sdc0ImageSlot1HammingSize.addr
  | .sdc1Sl0 => sdc1ImageSlot0HammingSize.addr
  | .sdc1Sl1 => sdc1ImageSlot1HammingSize.addr
  | .bootloader0 => bootloaderHammingCodeSize.addr
  | .bootloader1 => 0

/-! ## `FRAMApi.c` -/

/-- `FRAM_writeAndVerify`: the return value of the driver and the FRAM behind the write. -/
def framWriteAndVerify (outcome : WriteOutcome UInt8) (fram : Mem UInt8) (bytes : List UInt8)
    (address : Nat) : Int × Mem UInt8 :=
  (outcome.retval, outcome.apply (fun _ new => new) fram address bytes)

def framWriteBinarySize (outcome : WriteOutcome UInt8) (fram : Mem UInt8) (slotType : SlotType)
    (binarySize : Nat) : Int × Mem UInt8 :=
  match slotType with
  | .flashSlot => framWriteAndVerify outcome fram (toLE 4 binarySize) norFlashBinarySize.addr
  | .bootloader0 => framWriteAndVerify outcome fram (toLE 4 binarySize) bootloaderSize.addr
  | _ => (-3, fram)

def framWriteHamSize (outcome : WriteOutcome UInt8) (fram : Mem UInt8) (slotType : SlotType)
    (hamSize : Nat) : Int × Mem UInt8 :=
  if determineHamSizeAddress slotType = 0 then (-3, fram)
  else framWriteAndVerify outcome fram (toLE 4 hamSize) (determineHamSizeAddress slotType)

/-- `fram_write_ham_code`. `buffer` is the memory from the caller's buffer pointer on. The running
    offset is added to the source pointer; the destination is the start of the slot's region. -/
def framWriteHamCode (outcome : WriteOutcome UInt8) (fram : Mem UInt8) (slotType : SlotType)
    (buffer : Mem UInt8) (currentOffset sizeToWrite : Nat) : Int × Mem UInt8 :=
  match determineHamCodeAddressWithSizecheck slotType sizeToWrite with
  | .error code => (code, fram)
  | .ok address =>
    framWriteAndVerify outcome fram (load buffer currentOffset sizeToWrite) address

/-! ## `FRAMApiNoOs.c`, polled variants -/

/-- `fram_no_os_blocking_read_bootloader_block`. -/
def framNoOsBlockingReadBootloaderBlock (fram : Mem UInt8) : Int × BootloaderGroup :=
  (0, readBootloaderGroup fram)

/-- `fram_no_os_blocking_increment_img_reboot_counter`: stores the counter it is given. -/
def framNoOsBlockingIncrementImgRebootCounter (fram : Mem UInt8) (slotType : SlotType)
    (newRebootCounter : UInt16) : Int × Mem UInt8 :=
  (0, store fram (determineImgRebootCounterAddr slotType) (toLE 2 newRebootCounter.toNat))

/-- The clamp of a request to the region of its slot, in 32-bit arithmetic. -/
def clampHamSize (slotType : SlotType) (currentOffset sizeToRead : Nat) : Nat :=
  if hamCodeReservedSize slotType < (sizeToRead + currentOffset) % 2 ^ 32
  then (hamCodeReservedSize slotType + 2 ^ 32 - currentOffset) % 2 ^ 32
  else sizeToRead

/-- `fram_no_os_read_ham_checks`. The clamped size is local to the check: the caller goes on with
    the size it was given. -/
def framNoOsReadHamChecks (slotType : SlotType) (maxBuffer currentOffset sizeToRead : Nat) :
    Except Int Nat :=
  if determineHamCodeAddress slotType = 0 then .error (-4)
  else if sizeToRead = 0 then .error (-4)
  else if maxBuffer < clampHamSize slotType currentOffset sizeToRead then .error (-5)
  else .ok (determineHamCodeAddress slotType)

/-- What `fram_read_no_os_blocking` reads behind its command: the loop over both runs to `len + 4`, in 32
    bits. -/
def polledSize (len : Nat) : Nat := (len + 4) % 2 ^ 32 - 4

/-- `fram_no_os_blocking_read_ham_code`: the return value and the buffer behind the read. -/
def framNoOsBlockingReadHamCode (fram : Mem UInt8) (slotType : SlotType) (buffer : Mem UInt8)
    (maxBuffer currentOffset sizeToRead : Nat) : Int × Mem UInt8 :=
  match framNoOsReadHamChecks slotType maxBuffer currentOffset sizeToRead with
  | .error code => (code, buffer)
  | .ok address => (0, store buffer currentOffset (load fram address (polledSize sizeToRead)))

/-! ## Spec lemmas -/

theorem framWriteAndVerify_frame {outcome : WriteOutcome UInt8} {fram : Mem UInt8}
    {bytes : List UInt8} {address i : Nat} (h : i < address ∨ address + bytes.length ≤ i) :
    (framWriteAndVerify outcome fram bytes address).2 i = fram i := WriteOutcome.apply_frame h

/-- A write that reports success has stored the bytes. -/
theorem framWriteAndVerify_ok (outcome : WriteOutcome UInt8) (fram : Mem UInt8)
    (bytes : List UInt8) (address : Nat)
    (h : (framWriteAndVerify outcome fram bytes address).1 = 0) :
    (framWriteAndVerify outcome fram bytes address).2 = store fram address bytes := by
  obtain rfl : outcome = .done := WriteOutcome.retval_eq_zero.mp h
  rfl

end Fram
end Obsw
