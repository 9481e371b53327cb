import Obsw.Config
import Obsw.Lib.LittleEndian

/-!
# `Fram.Layout` — the critical data block and the hamming code regions of the FRAM

`CommonFRAM.h`: the packed record `CriticalDataBlock` at address 0 and, counted down from the end of
the FRAM, one reserved hamming code region for each image. A field starts where the one before it ends
(`__packed__`), so the offsets follow from the declaration order of the C structure.
-/

namespace Obsw
namespace Fram

open Memory LittleEndian

def framTrue : Nat := 1
def framFalse : Nat := 0

/-- `FRAM_END_ADDR`. -/
def framEndAddr : Nat := 0x3ffff

def bootloaderHammingReservedSize : Nat := 0x600
def imagesHammingReservedSize : Nat := 0x2A00

def bootloaderHammingAddr : Nat := framEndAddr - bootloaderHammingReservedSize
def norFlashHammingAddr : Nat := bootloaderHammingAddr - imagesHammingReservedSize
def sdc0Slot0HammingAddr : Nat := norFlashHammingAddr - imagesHammingReservedSize
def sdc0Slot1HammingAddr : Nat := sdc0Slot0HammingAddr - imagesHammingReservedSize
def sdc1Slot0HammingAddr : Nat := sdc0Slot1HammingAddr - imagesHammingReservedSize
def sdc1Slot1HammingAddr : Nat := sdc1Slot0HammingAddr - imagesHammingReservedSize

/-- The image slots known to the FRAM (`SlotType`). -/
inductive SlotType where
  | flashSlot
  | sdc0Sl0
  | sdc0Sl1
  | sdc1Sl0
  | sdc1Sl1
  | bootloader0
  | bootloader1
  deriving DecidableEq, Repr

/-! ## `CriticalDataBlock` -/

def softwareVersion : Field := ⟨0, 1⟩
def softwareSubversion : Field := ⟨softwareVersion.next, 1⟩
def softwareSubsubversion : Field := ⟨softwareSubversion.next, 1⟩
def fillerSwVersion : Field := ⟨softwareSubsubversion.next, 1⟩

def rebootCounter : Field := ⟨fillerSwVersion.next, 4⟩
def secondsSinceEpoch : Field := ⟨rebootCounter.next, 4⟩

/-! ### The group read by the bootloader -/

def preferredSdCard : Field := ⟨secondsSinceEpoch.next, 2⟩
def globalHammingFlag : Field := ⟨preferredSdCard.next, 2⟩

def norFlashHammingFlag : Field := ⟨globalHammingFlag.next, 2⟩
def sdc0ImageSlot0HammingFlag : Field := ⟨norFlashHammingFlag.next, 2⟩
def sdc0ImageSlot1HammingFlag : Field := ⟨sdc0ImageSlot0HammingFlag.next, 2⟩
def sdc1ImageSlot0HammingFlag : Field := ⟨sdc0ImageSlot1HammingFlag.next, 2⟩
def sdc1ImageSlot1HammingFlag : Field := ⟨sdc1ImageSlot0HammingFlag.next, 2⟩
def fillerHammingFlags : Field := ⟨sdc1ImageSlot1HammingFlag.next, 2⟩

def norFlashRebootCounter : Field := ⟨fillerHammingFlags.next, 2⟩
def sdc0ImageSlot0RebootCounter : Field := ⟨norFlashRebootCounter.next, 2⟩
def sdc0ImageSlot1RebootCounter : Field := ⟨sdc0ImageSlot0RebootCounter.next, 2⟩
def sdc1ImageSlot0RebootCounter : Field := ⟨sdc0ImageSlot1RebootCounter.next, 2⟩
def sdc1ImageSlot1RebootCounter : Field := ⟨sdc1ImageSlot0RebootCounter.next, 2⟩
def fillerRebootCounter : Field := ⟨sdc1ImageSlot1RebootCounter.next, 2⟩

def norFlashBinarySize : Field := ⟨fillerRebootCounter.next, 4⟩
def norFlashHammingCodeSize : Field := ⟨norFlashBinarySize.next, 4⟩
def sdc0ImageSlot0HammingSize : Field := ⟨norFlashHammingCodeSize.next, 4⟩
def sdc0ImageSlot1HammingSize : Field := ⟨sdc0ImageSlot0HammingSize.next, 4⟩
def sdc1ImageSlot0HammingSize : Field := ⟨sdc0ImageSlot1HammingSize.next, 4⟩
def sdc1ImageSlot1HammingSize : Field := ⟨sdc1ImageSlot0HammingSize.next, 4⟩

def softwareUpdateAvailable : Field := ⟨sdc1ImageSlot1HammingSize.next, 1⟩
def softwareUpdateInVolume0 : Field := ⟨softwareUpdateAvailable.next, 1⟩
def softwareUpdateInVolume1 : Field := ⟨softwareUpdateInVolume0.next, 1⟩
def fillerSoftwareUpdate : Field := ⟨softwareUpdateInVolume1.next, 1⟩

/-! ### Behind the bootloader group -/

def deployTimerArmed : Field := ⟨fillerSoftwareUpdate.next, 1⟩
def secondsSinceTimerArmed : Field := ⟨deployTimerArmed.next, 4⟩
def bootloaderFaulty : Field := ⟨secondsSinceTimerArmed.next, 4⟩
def bootloaderSize : Field := ⟨bootloaderFaulty.next, 4⟩
def bootloaderHammingCodeSize : Field := ⟨bootloaderSize.next, 4⟩
def numberOfActiveTasks : Field := ⟨bootloaderHammingCodeSize.next, 2⟩
def fillerTasks : Field := ⟨numberOfActiveTasks.next, 2⟩

/-- `sizeof(CriticalDataBlock)`. -/
def criticalDataBlockSize : Nat := fillerTasks.next

/-! ## `BootloaderGroup` -/

/-- What the bootloader reads at once on startup, fillers left out. -/
structure BootloaderGroup where
  preferredSdCard : UInt16
  globalHammingFlag : UInt16
  norFlashHammingFlag : UInt16
  sdc0ImageSlot0HammingFlag : UInt16
  sdc0ImageSlot1HammingFlag : UInt16
  sdc1ImageSlot0HammingFlag : UInt16
  sdc1ImageSlot1HammingFlag : UInt16
  norFlashRebootCounter : UInt16
  sdc0ImageSlot0RebootCounter : UInt16
  sdc0ImageSlot1RebootCounter : UInt16
  sdc1ImageSlot0RebootCounter : UInt16
  sdc1ImageSlot1RebootCounter : UInt16
  norFlashBinarySize : UInt32
  norFlashHammingCodeSize : UInt32
  sdc0ImageSlot0HammingSize : UInt32
  sdc0ImageSlot1HammingSize : UInt32
  sdc1ImageSlot0HammingSize : UInt32
  sdc1ImageSlot1HammingSize : UInt32
  softwareUpdateAvailable : UInt8
  softwareUpdateInVolume0 : UInt8
  softwareUpdateInVolume1 : UInt8

/-- The group as it lies in the FRAM. -/
def readBootloaderGroup (fram : Mem UInt8) : BootloaderGroup where
  preferredSdCard := .ofNat (preferredSdCard.read fram)
  globalHammingFlag := .ofNat (globalHammingFlag.read fram)
  norFlashHammingFlag := .ofNat (norFlashHammingFlag.read fram)
  sdc0ImageSlot0HammingFlag := .ofNat (sdc0ImageSlot0HammingFlag.read fram)
  sdc0ImageSlot1HammingFlag := .ofNat (sdc0ImageSlot1HammingFlag.read fram)
  sdc1ImageSlot0HammingFlag := .ofNat (sdc1ImageSlot0HammingFlag.read fram)
  sdc1ImageSlot1HammingFlag := .ofNat (sdc1ImageSlot1HammingFlag.read fram)
  norFlashRebootCounter := .ofNat (norFlashRebootCounter.read fram)
  sdc0ImageSlot0RebootCounter := .ofNat (sdc0ImageSlot0RebootCounter.read fram)
  sdc0ImageSlot1RebootCounter := .ofNat (sdc0ImageSlot1RebootCounter.read fram)
  sdc1ImageSlot0RebootCounter := .ofNat (sdc1ImageSlot0RebootCounter.read fram)
  sdc1ImageSlot1RebootCounter := .ofNat (sdc1ImageSlot1RebootCounter.read fram)
  norFlashBinarySize := .ofNat (norFlashBinarySize.read fram)
  norFlashHammingCodeSize := .ofNat (norFlashHammingCodeSize.read fram)
  sdc0ImageSlot0HammingSize := .ofNat (sdc0ImageSlot0HammingSize.read fram)
  sdc0ImageSlot1HammingSize := .ofNat (sdc0ImageSlot1HammingSize.read fram)
  sdc1ImageSlot0HammingSize := .ofNat (sdc1ImageSlot0HammingSize.read fram)
  sdc1ImageSlot1HammingSize := .ofNat (sdc1ImageSlot1HammingSize.read fram)
  softwareUpdateAvailable := .ofNat (softwareUpdateAvailable.read fram)
  softwareUpdateInVolume0 := .ofNat (softwareUpdateInVolume0.read fram)
  softwareUpdateInVolume1 := .ofNat (softwareUpdateInVolume1.read fram)

end Fram
end Obsw
