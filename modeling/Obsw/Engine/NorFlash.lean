import Obsw.Config
import Obsw.Lib.Device

/-!
# `Engine.NorFlash` — the NOR flash of the iOBC

The driver and its header (`hal/Storage/NORflash.h`) are not part of the repository. `NorHal` names
what the copying code takes from them: the sector addresses, what programming does to a cell, and the
CRC function of the framework. The sectors are the eight small ones followed by fifteen large ones the
configuration describes, so every address has a sector (`sectorOf`), and erasing works on whole
sectors. Erase and write commands are logged with their addresses.
-/

namespace Obsw
namespace Engine

open Memory Device

/-- What the copying code takes from the driver and the framework. -/
structure NorHal where
  /-- `NORFLASH_SAx_ADDRESS` -/
  sectorAddress : Nat → Nat
  small_address : ∀ i < norflashSmallSectorsNumber, sectorAddress i = i * norflashSmallSectorSize
  large_address : ∀ i < norflashSectorsNumber - norflashSmallSectorsNumber,
    sectorAddress (norflashSmallSectorsNumber + i) =
      norflashSmallSectorsNumber * norflashSmallSectorSize + i * norflashLargeSectorSize
  /-- what a successful write makes of an old and a new cell -/
  program : UInt8 → UInt8 → UInt8
  /-- `CRC::crc16ccitt` of the framework -/
  crc16ccitt : List UInt8 → UInt16

/-- An erase or write command sent to the flash. -/
inductive FlashCommand where
  | erase (address : Nat)
  | write (address size : Nat)
  deriving DecidableEq, Repr

/-! ## Sectors -/

/-- The sector of an address. -/
def sectorOf (address : Nat) : Nat :=
  if address < norflashSmallSectorsNumber * norflashSmallSectorSize
  then address / norflashSmallSectorSize
  else norflashSmallSectorsNumber +
    (address - norflashSmallSectorsNumber * norflashSmallSectorSize) / norflashLargeSectorSize

theorem sectorOf_eq (address : Nat) : sectorOf address =
    if address < 65536 then address / 8192 else 8 + (address - 65536) / 65536 := rfl

/-- The size of a sector. -/
def sectorSize (sector : Nat) : Nat :=
  if sector < norflashSmallSectorsNumber then norflashSmallSectorSize else norflashLargeSectorSize

/-- `NORFLASH_EraseSector`: every cell of the addressed sector becomes 0xff. -/
def eraseSector (outcome : WriteOutcome UInt8) (flash : Mem UInt8) (address : Nat) : Mem UInt8 :=
  outcome.apply (fun _ new => new) flash address
    (List.replicate (sectorSize (sectorOf address)) 0xff)

variable (hal : NorHal)

/-- The address of each of the 23 sectors. -/
theorem NorHal.sectorAddress_eq {i : Nat} (h : i < norflashSectorsNumber) :
    hal.sectorAddress i = if i < 8 then i * 8192 else 65536 + (i - 8) * 65536 := by
  by_cases hi : i < 8
  · rw [if_pos hi]
    exact hal.small_address i hi
  · have hlarge := hal.large_address (i - 8) (by
      simp only [norflashSectorsNumber, norflashSmallSectorsNumber] at h ⊢
      omega)
    rw [show norflashSmallSectorsNumber + (i - 8) = i by
      simp only [norflashSmallSectorsNumber]; omega] at hlarge
    rw [if_neg hi, hlarge]
    rfl

/-- The driver of the iOBC flash: sectors in a row, programming clears bits. -/
def iobcNorHal (crc16ccitt : List UInt8 → UInt16) : NorHal where
  sectorAddress i := if i < 8 then i * 8192 else 65536 + (i - 8) * 65536
  small_address i h := if_pos h
  large_address i _ := by
    have hge : ¬ norflashSmallSectorsNumber + i < 8 := by
      simp only [norflashSmallSectorsNumber]
      omega
    rw [if_neg hge]
    simp only [norflashSmallSectorsNumber, norflashSmallSectorSize, norflashLargeSectorSize]
    omega
  program old new := old &&& new
  crc16ccitt := crc16ccitt

/-- A flash whose writes replace what was there. -/
def overwritingNorHal : NorHal := { iobcNorHal (fun _ => 0) with program := fun _ new => new }

end Engine
end Obsw
