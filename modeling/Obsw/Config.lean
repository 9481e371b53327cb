/-!
# `Obsw.Config` — constants shared by the bootloader and the on-board software

Configuration constants of `bootloaderConfig.h.in`, `commonIOBCConfig.h`, `commonAt91Config.h` and
`commonConfig.h`, for the build the repository configures (iOBC with the 128 kB bootloader, no
FreeRTOS and a polled FRAM driver in the bootloader; the AT91 board with a two-stage bootloader), and
those of `OBSWConfig.h.in` for the on-board software.
-/

namespace Obsw

/-! ## Boot policy -/

/-- `BOOTLOADER_MAX_REBOOT_COUNTER`. -/
def bootloaderMaxRebootCounter : Nat := 5

/-- `SDRAM_DESTINATION`. -/
def sdramDestination : Nat := 0x20000000

/-! ## NOR flash layout of the iOBC -/

/-- `NORFLASH_SMALL_SECTOR_SIZE`: also the size of the copy buckets. -/
def norflashSmallSectorSize : Nat := 8192

/-- `NORFLASH_LARGE_SECTOR_SIZE`. -/
def norflashLargeSectorSize : Nat := 65536

def norflashSmallSectorsNumber : Nat := 8
def norflashSectorsNumber : Nat := 23

def reservedBlSmallSectors : Nat := norflashSmallSectorsNumber
def reservedBlLargeSectors : Nat := 1
def reservedBlSectors : Nat := reservedBlSmallSectors + reservedBlLargeSectors
def reservedObswSectors : Nat := norflashSectorsNumber - reservedBlSectors

/-- `BOOTLOADER_RESERVED_SIZE`: eight small sectors and a large one. -/
def bootloaderReservedSize : Nat :=
  reservedBlSmallSectors * norflashSmallSectorSize + reservedBlLargeSectors * norflashLargeSectorSize

def norflashBlSizeStart : Nat := bootloaderReservedSize - 6
def norflashBlCrc16Start : Nat := bootloaderReservedSize - 2

/-- `BINARY_BASE_ADDRESS_WRITE`: the primary image starts behind the bootloader. -/
def binaryBaseAddress : Nat := bootloaderReservedSize

def iobcNorflashSize : Nat := 0x100000

/-- `PRIMARY_IMAGE_RESERVED_SIZE` of the iOBC. -/
def primaryImageReservedSize : Nat := iobcNorflashSize - bootloaderReservedSize

/-! ## NAND flash of the AT91 board -/

/-- `NAND_PAGE_SIZE` (`NandCommon_MAXPAGEDATASIZE`): also the size of the image buffer. -/
def nandPageSize : Nat := 2048

/-- `PAGES_PER_BLOCK` (`NandCommon_MAXNUMPAGESPERBLOCK`). -/
def pagesPerBlock : Nat := 64

/-- `PRIMARY_IMAGE_NAND_OFFSET` of the second-stage bootloader. -/
def primaryImageNandOffset : Nat := 0x40000

/-! ## Repositories and file names on the SD cards -/

/-- The volumes of the file system (`VolumeId`). -/
inductive VolumeId where
  | sdCard0
  | sdCard1
  deriving DecidableEq, Repr

/-- A file of a card: its repository and its name. -/
abbrev Path := String × String

def bootloaderRepository : String := "BIN/BL"
def swRepository : String := "BIN/OBSW"

def bootloaderName : String := "bl.bin"
def bootloader2Name : String := "bl2.bin"
def blHammingName : String := "bl_ham.bin"
def swSlot0Name : String := "obsw_sl0.bin"
def swSlot1Name : String := "obsw_sl1.bin"
def swFlashHammingName : String := "nor_ham.bin"
def swSlot0HammingName : String := "sl0_ham.bin"
def swSlot1HammingName : String := "sl1_ham.bin"

/-! ## On-board software -/

/-- `RS232_MAX_SERIAL_FRAME_SIZE`. -/
def rs232MaxSerialFrameSize : Nat := 1500

/-- `SD_CARD_MAX_READ_LENGTH`: the part of a file one read reply carries. -/
def sdCardMaxReadLength : Nat := 1024

/-- `MAX_REPOSITORY_PATH_LENGTH`. -/
def maxRepositoryPathLength : Nat := 64

/-- `MAX_FILENAME_LENGTH`. -/
def maxFilenameLength : Nat := 12

/-- `STORE_VERY_LARGE_BUCKET_SIZE`: the largest elements of the IPC store. -/
def storeVeryLargeBucketSize : Nat := 2048

end Obsw
