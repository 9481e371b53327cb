import Obsw.Fram.Api

/-!
# `Boot.Logic` — choosing the image and counting reboots

`boot_logic.c` and `fram_logic.c`: which image is booted, whether its hamming code is checked, and the
reboot counter that is written back. The source decodes the selection anew in each of these places.
-/

namespace Obsw
namespace Boot

open Memory LittleEndian Device Fram

/-- The images a boot can select (`BootSelect`). -/
inductive BootSelect where
  | sdCard0Slot0
  | sdCard0Slot1
  | sdCard1Slot0
  | sdCard1Slot1
  | norFlash
  deriving DecidableEq, Repr

/-! ## The state of one boot -/

/-- The status written to the end of SRAM0 for the primary software. -/
inductive SramStatus where
  | ok
  | hammingErrorSingleBit
  | hammingErrorEcc
  | hammingErrorMultibit
  | framIssues
  | bootloaderInvalid
  deriving DecidableEq, Repr

/-- The memories and globals of the bootloader. -/
structure BootState where
  fram : Mem UInt8
  blFramBlock : BootloaderGroup
  framFaulty : Bool
  sdram : Mem UInt8
  hammingCodeBuf : Mem UInt8
  sram0Status : Option SramStatus

/-! ## `determine_boot_select` -/

/-- The update request at the head of `determine_boot_select`: `some` where the function returns. -/
def determineUpdateSelect (bl : BootloaderGroup) : Option BootSelect :=
  if bl.softwareUpdateAvailable.toNat = framTrue then
    -- slot 1 is the update slot
    if bl.softwareUpdateInVolume0.toNat = framTrue then
      if bootloaderMaxRebootCounter ≤ bl.sdc0ImageSlot1RebootCounter.toNat then none
      else some .sdCard0Slot1
    else if bl.softwareUpdateInVolume1.toNat = framTrue then
      if bootloaderMaxRebootCounter ≤ bl.sdc1ImageSlot1RebootCounter.toNat then none
      else some .sdCard1Slot1
    else none
  else none

/-- The choice between the two slot 0 images, made once the NOR flash counter is too high. -/
def determineSdcSelect (bl : BootloaderGroup) (useHamming : Bool) : BootSelect × Bool :=
  if bl.preferredSdCard.toNat = 0xff ∨ bl.preferredSdCard.toNat = 1 ∨ bl.preferredSdCard.toNat = 0
  then
    if bl.sdc0ImageSlot0RebootCounter.toNat < bootloaderMaxRebootCounter then
      (.sdCard0Slot0, useHamming)
    else if bl.sdc1ImageSlot0RebootCounter.toNat < bootloaderMaxRebootCounter then
      (.sdCard1Slot0, useHamming)
    else (.norFlash, false)
  else
    if bl.sdc1ImageSlot0RebootCounter.toNat < bootloaderMaxRebootCounter then
      (.sdCard1Slot0, useHamming)
    else if bl.sdc0ImageSlot0RebootCounter.toNat < bootloaderMaxRebootCounter then
      (.sdCard0Slot0, useHamming)
    else (.norFlash, false)

/-- `determine_boot_select`: the selected image and the value left in `*use_hamming`. -/
def determineBootSelect (bl : BootloaderGroup) (framFaulty : Bool) : BootSelect × Bool :=
  if framFaulty then (.norFlash, false)
  else
    let useHamming := decide (bl.globalHammingFlag.toNat = framTrue)
    match determineUpdateSelect bl with
    | some bootSelect => (bootSelect, useHamming)
    | none =>
      if bl.norFlashRebootCounter.toNat < bootloaderMaxRebootCounter then (.norFlash, useHamming)
      else determineSdcSelect bl useHamming

/-! ## `fram_logic.c` -/

/-- `local_hamming_flag_check`. -/
def localHammingFlagCheck (bl : BootloaderGroup) : BootSelect → Bool
  | .norFlash => decide (bl.norFlashHammingFlag.toNat = framTrue)
  | .sdCard0Slot0 => decide (bl.sdc0ImageSlot0HammingFlag.toNat = framTrue)
  | .sdCard0Slot1 => decide (bl.sdc0ImageSlot1HammingFlag.toNat = framTrue)
  | .sdCard1Slot0 => decide (bl.sdc1ImageSlot0HammingFlag.toNat = framTrue)
  | .sdCard1Slot1 => decide (bl.sdc1ImageSlot1HammingFlag.toNat = framTrue)

/-- The counter `increment_reboot_counter_no_os` picks from the block; 0 for other slots. -/
def imgRebootCounter (bl : BootloaderGroup) : SlotType → UInt16
  | .flashSlot => bl.norFlashRebootCounter
  | .sdc0Sl0 => bl.sdc0ImageSlot0RebootCounter
  | .sdc0Sl1 => bl.sdc0ImageSlot1RebootCounter
  | .sdc1Sl0 => bl.sdc1ImageSlot0RebootCounter
  | .sdc1Sl1 => bl.sdc1ImageSlot1RebootCounter
  | .bootloader0 => 0
  | .bootloader1 => 0

/-- The value written back for a counter: 0xff counts as unset, and `++` wraps at 16 bits. -/
def nextRebootCounter (counter : UInt16) : UInt16 :=
  (if counter = 0xff then 0 else counter) + 1

/-- `increment_reboot_counter_no_os`. -/
def incrementRebootCounterNoOs (s : BootState) (slotType : SlotType) : Int × BootState :=
  let written := framNoOsBlockingIncrementImgRebootCounter s.fram slotType
    (nextRebootCounter (imgRebootCounter s.blFramBlock slotType))
  (written.1, { s with fram := written.2 })

/-- The slot `increment_sdc_loc_reboot_counter` maps a selection to. -/
def sdcLocSlotType : BootSelect → SlotType
  | .sdCard0Slot0 => .sdc0Sl0
  | .sdCard0Slot1 => .sdc0Sl1
  | .sdCard1Slot0 => .sdc1Sl0
  | .sdCard1Slot1 => .sdc1Sl1
  | .norFlash => .sdc0Sl0

/-- `increment_sdc_loc_reboot_counter`. -/
def incrementSdcLocRebootCounter (s : BootState) (bootSelect : BootSelect) : Int × BootState :=
  incrementRebootCounterNoOs s (sdcLocSlotType bootSelect)

end Boot
end Obsw
